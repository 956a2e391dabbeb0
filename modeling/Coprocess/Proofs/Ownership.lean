import Coprocess.Proofs.Accounting
import Coprocess.Proofs.Discipline
import Coprocess.Proofs.Wiring

/-!
# What is a launch's own

The table of a process that launches several coprocesses at a time falls into parts: what each
launch has made is its own, and the rest was there before.  A launch is considerate if it marks what
it makes and otherwise asks only about what is its own (`Call.Considerate`).  Its requests then come
to the same for its own part of the table as for the whole, and no other launch notices them
(`Table.Moves.own`), so that what a launch does can be looked at as if it were alone.

A child gets a copy of the whole table.  Since all that is foreign is marked there, it is enough
that the child unmarks nothing foreign: it wires only from numbers that lead to nothing foreign
(`Table.Guarded`), even if others stand where it wires to.

Main statements:
* `Table.Moves.own`, for the launches among each other;
* `Launcher.mayStart_pipedChild` and `Launcher.mayStart_attachedChild`, for their children.
-/

namespace Coprocess

open Host Program

variable {n : Nat} {T U : Table Made}

/-! ### The part of a table that is a launch's own -/

namespace Host.Table

/-- What the launch `n` has made. -/
def own (n : Nat) (T : Table Made) : Table Made :=
  T.filter fun e => e.2.description.maker == some n

/-- No number is bound twice, and whatever a launch has made ends with the image. -/
structure Sound (T : Table Made) : Prop where
  distinct : T.Distinct
  marked : ∀ e ∈ T, e.2.description.maker ≠ none → e.2.cloexec = true

theorem Sound.remove (sound : T.Sound) (fd : Fd) : (T.remove fd).Sound :=
  ⟨sound.distinct.remove fd, fun e he => sound.marked e (List.mem_filter.1 he).1⟩

theorem Sound.cons (sound : T.Sound) {fd : Fd} (free : T.find? fd = none) (d : Made) :
    Sound ((fd, ⟨d, true⟩) :: T) := by
  refine ⟨List.nodup_cons.2 ⟨find?_eq_none_iff.1 free, sound.distinct⟩, ?_⟩
  rw [List.forall_mem_cons]
  exact ⟨fun _ => rfl, sound.marked⟩

theorem Sound.cons_cons (sound : T.Sound) {fd fd' : Fd} (free : T.find? fd = none)
    (free' : T.find? fd' = none) (different : fd ≠ fd') (d d' : Made) :
    Sound ((fd', ⟨d', true⟩) :: (fd, ⟨d, true⟩) :: T) :=
  (sound.cons free d).cons (by rwa [find?_cons, if_neg different]) d'

theorem find?_own (distinct : T.Distinct) (fd : Fd) :
    (T.own n).find? fd = (T.find? fd).filter fun b => b.description.maker == some n :=
  find?_filter distinct (fun b => b.description.maker == some n) fd

theorem find?_of_find?_own (distinct : T.Distinct) {fd : Fd} {b : Binding Made}
    (bound : (T.own n).find? fd = some b) :
    T.find? fd = some b ∧ b.description.maker = some n := by
  rw [find?_own distinct, Option.filter_eq_some_iff] at bound
  exact ⟨bound.1, by simpa using bound.2⟩

theorem find?_own_of_free (distinct : T.Distinct) {fd : Fd} (free : T.find? fd = none) :
    (T.own n).find? fd = none := by
  rw [find?_own distinct, free]
  rfl

@[simp] theorem own_cons_self (fd : Fd) (what : Description) (cloexec : Bool) (T : Table Made) :
    own n ((fd, ⟨⟨what, some n⟩, cloexec⟩) :: T) =
      (fd, ⟨⟨what, some n⟩, cloexec⟩) :: T.own n := by
  simp [own]

theorem own_cons_of_ne {m : Nat} (other : m ≠ n) (fd : Fd) (what : Description) (cloexec : Bool)
    (T : Table Made) : own m ((fd, ⟨⟨what, some n⟩, cloexec⟩) :: T) = T.own m := by
  simp [own, other.symm]

theorem own_remove (n : Nat) (T : Table Made) (fd : Fd) :
    (T.remove fd).own n = (T.own n).remove fd := by
  unfold own remove
  rw [List.filter_filter, List.filter_filter]
  exact congrArg (fun f => T.filter f) (funext fun e => Bool.and_comm _ _)

/-- What is a launch's own is nothing to the others. -/
theorem own_remove_of_ne {m : Nat} (distinct : T.Distinct) (other : m ≠ n) {fd : Fd}
    (bound : (T.own n).isBound fd = true) : (T.remove fd).own m = T.own m := by
  obtain ⟨b, bound⟩ := Option.isSome_iff_exists.1 bound
  obtain ⟨found, maker⟩ := find?_of_find?_own distinct bound
  rw [own_remove, remove_of_free]
  rw [find?_own distinct, found]
  simp [Option.filter, maker, other.symm]

end Host.Table

/-! ### The disciplines -/

/-- What a launch is held to in the process that it shares with others: all that it makes is marked,
and it closes, names and duplicates only what is its own. -/
def Host.Call.Considerate (T : Table Made) : Call → Prop
  | .close fd => T.isBound fd = true
  | .pipe cloexec => cloexec = true
  | .slaveName fd => T.isBound fd = true
  | .openFile path mode => mode.cloexec = true ∧ ∃ e ∈ T, ∃ k,
      e.2.description.what = .master k ∧ path = Bytes.ofText (World.slavePath k)
  | .duplicate source _ cloexec => T.isBound source = true ∧ cloexec = true
  | .duplicateOnto _ _ => False
  | .setCloexec _ _ => False
  | .execute _ _ _ => False
  | .exit _ => False
  | _ => True

/-- What a launch `n` makes, or no launch at all. -/
def Made.IsFor (d : Made) (n : Nat) : Prop := d.maker = none ∨ d.maker = some n

/-- Whatever has been made by another launch than `n` ends with the image. -/
def Host.Table.Sealed (n : Nat) (T : Table Made) : Prop :=
  ∀ e ∈ T, e.2.cloexec = true ∨ e.2.description.IsFor n

/-- What the child of the launch `n` is held to: it may ask for an image only if that would get
nothing of another launch. -/
def childDiscipline (n : Nat) : Discipline where
  launch := n
  mayAsk T
    | .execute _ _ _ => T.Sealed n
    | .acquireTerminal _ _ => False
    | .releaseTerminal _ => False
    | _ => True
  mayStart _ _ := False

/-- What the launch `n` is held to: a child must keep to its discipline with a copy of the whole
table, whatever others have made. -/
def launchDiscipline (n : Nat) : Discipline where
  launch := n
  mayAsk := Call.Considerate
  mayStart own child := ∀ T : Table Made, T.Sound → T.own n = own →
    child.Obeys (childDiscipline n) (fun _ _ => True) T

/-- **A considerate request** of one launch is, for its own part of the table, what it is for the
whole; it changes no other part. -/
theorem Host.Table.Moves.own {c : Call} {r : c.Reply} (moves : T.Moves n (.reply c r) U)
    (sound : T.Sound) (considerate : c.Considerate (T.own n)) :
    U.Sound ∧ (T.own n).Moves n (.reply c r) (U.own n) ∧ ∀ m, m ≠ n → U.own m = T.own m := by
  have distinct := sound.distinct
  cases c with
  | close fd =>
    obtain rfl : U = T.remove fd := moves
    exact ⟨sound.remove fd, own_remove n T fd,
      fun m other => own_remove_of_ne distinct other considerate⟩
  | pipe cloexec =>
    obtain rfl : cloexec = true := considerate
    rcases r with reason | ⟨readEnd, writeEnd⟩
    · obtain rfl : U = T := moves
      exact ⟨sound, rfl, fun _ _ => rfl⟩
    · obtain ⟨readFree, writeFree, different, k, rfl⟩ := moves
      refine ⟨sound.cons_cons readFree writeFree different _ _, ?_, fun m other => ?_⟩
      · rw [own_cons_self, own_cons_self]
        exact ⟨find?_own_of_free distinct readFree, find?_own_of_free distinct writeFree,
          different, k, rfl⟩
      · rw [own_cons_of_ne other, own_cons_of_ne other]
  | openMaster =>
    rcases r with reason | fd
    · obtain rfl : U = T := moves
      exact ⟨sound, rfl, fun _ _ => rfl⟩
    · obtain ⟨free, k, new, rfl⟩ := moves
      refine ⟨sound.cons free _, ?_, fun m other => own_cons_of_ne other ..⟩
      rw [own_cons_self]
      exact ⟨find?_own_of_free distinct free, k, fun e he => new e (List.mem_filter.1 he).1, rfl⟩
  | slaveName fd =>
    rcases r with reason | slaveName
    · obtain rfl : U = T := moves
      exact ⟨sound, rfl, fun _ _ => rfl⟩
    · obtain ⟨rfl, b, k, bound, master, named⟩ := moves
      refine ⟨sound, ⟨rfl, b, k, ?_, master, named⟩, fun _ _ => rfl⟩
      obtain ⟨b', bound'⟩ := Option.isSome_iff_exists.1 considerate
      obtain ⟨found, -⟩ := find?_of_find?_own distinct bound'
      rwa [← found.symm.trans bound]
  | openFile path mode =>
    obtain ⟨marked, e, he, k, master, named⟩ := considerate
    rcases r with reason | fd
    · obtain rfl : U = T := moves
      exact ⟨sound, rfl, fun _ _ => rfl⟩
    · obtain ⟨free, d, names, rfl⟩ := moves
      obtain ⟨listed, maker⟩ := List.mem_filter.1 he
      have maker : e.2.description.maker = some n := by simpa using maker
      -- The path names a terminal of the launch, so that what is opened is its slave.
      obtain rfl : d = ⟨.slave k, some n⟩ := maker ▸ names e listed k master named
      rw [marked]
      refine ⟨sound.cons free _, ?_, fun m other => own_cons_of_ne other ..⟩
      rw [own_cons_self]
      refine ⟨find?_own_of_free distinct free, _, fun e he => names e (List.mem_filter.1 he).1, ?_⟩
      rw [marked]
  | duplicate source least cloexec =>
    obtain ⟨ofSource, rfl⟩ := considerate
    rcases r with reason | fd
    · obtain rfl : U = T := moves
      exact ⟨sound, rfl, fun _ _ => rfl⟩
    · obtain ⟨free, b, bound, rfl⟩ := moves
      obtain ⟨b', bound'⟩ := Option.isSome_iff_exists.1 ofSource
      obtain ⟨found, maker⟩ := find?_of_find?_own distinct bound'
      obtain rfl : b' = b := Option.some.inj (found.symm.trans bound)
      obtain ⟨⟨what, _⟩, mark⟩ := b'
      obtain rfl : _ = some n := maker
      refine ⟨sound.cons free _, ?_, fun m other => own_cons_of_ne other ..⟩
      rw [own_cons_self]
      exact ⟨find?_own_of_free distinct free, _, bound', rfl⟩
  | acquireTerminal modes size =>
    rcases r with reason | pair
    · obtain rfl : U = T := moves
      exact ⟨sound, rfl, fun _ _ => rfl⟩
    · obtain ⟨masterFree, slaveFree, different, k, rfl⟩ := moves
      refine ⟨sound.cons_cons masterFree slaveFree different _ _, ?_, fun m other => ?_⟩
      · rw [own_cons_self, own_cons_self]
        exact ⟨find?_own_of_free distinct masterFree, find?_own_of_free distinct slaveFree,
          different, k, rfl⟩
      · rw [own_cons_of_ne other, own_cons_of_ne other]
  | duplicateOnto => exact considerate.elim
  | setCloexec => exact considerate.elim
  | execute => exact considerate.elim
  | exit => exact considerate.elim
  | _ =>
    -- No other request touches a table.
    obtain rfl : U = T := moves
    exact ⟨sound, rfl, fun _ _ => rfl⟩

/-! ### Children -/

namespace Host.Table

/-- The table is sealed for the launch `n`, and the numbers `S` lead to nothing of another. -/
structure Guarded (n : Nat) (S : List Fd) (T : Table Made) : Prop where
  isSealed : T.Sealed n
  safe : ∀ e ∈ T, e.1 ∈ S → e.2.description.IsFor n

variable {S : List Fd}

theorem Guarded.remove (guarded : T.Guarded n S) (fd : Fd) : (T.remove fd).Guarded n S :=
  ⟨fun e he => guarded.isSealed e (List.mem_filter.1 he).1,
    fun e he => guarded.safe e (List.mem_filter.1 he).1⟩

/-- What is put where something safe was, or put there from where something safe is, is safe. -/
theorem Guarded.bind (guarded : T.Guarded n S) {d : Made} (ours : d.IsFor n) (target : Fd)
    (cloexec : Bool) : (T.bind target ⟨d, cloexec⟩).Guarded n (target :: S) := by
  have rest := guarded.remove target
  constructor
  · intro e he
    rcases List.mem_cons.1 he with rfl | he
    · exact .inr ours
    · exact rest.isSealed e he
  · intro e he listed
    rcases List.mem_cons.1 he with rfl | he
    · exact ours
    · rcases List.mem_cons.1 listed with same | listed
      · have other := (List.mem_filter.1 he).2
        simp [same] at other
      · exact rest.safe e he listed

theorem Guarded.duplicate (guarded : T.Guarded n S) {source : Fd} (safe : source ∈ S)
    (bound : T.isBound source = true) (target : Fd) :
    (T.duplicate source target).Guarded n (target :: S) := by
  obtain ⟨b, bound⟩ := Option.isSome_iff_exists.1 bound
  rw [Table.duplicate, bound]
  exact guarded.bind (guarded.safe _ (mem_of_find? bound) safe) target false

theorem Guarded.cons (guarded : T.Guarded n S) {fd : Fd} (safe : fd ∈ S) :
    T.Guarded n (fd :: S) := by
  refine ⟨guarded.isSealed, fun e he listed => guarded.safe e he ?_⟩
  rcases List.mem_cons.1 listed with same | listed
  · exact same ▸ safe
  · exact listed

end Host.Table

namespace Launcher

variable {S : List Fd}

/-- Closing, naming a session and the like make nothing worse. -/
theorem obeys_closeAll (guarded : T.Guarded n S) (fds : List Fd) :
    (closeAll fds).Obeys (childDiscipline n) (fun _ U => U.Guarded n S) T := by
  refine Obeys.of_only (closeAll_only (P := fun c => ∃ fd, c = .close fd) (fun fd => ⟨fd, rfl⟩) fds)
    ?_ guarded
  rintro _ ⟨fd, rfl⟩ T guarded
  refine ⟨trivial, fun r U moves => ?_⟩
  obtain rfl : U = T.remove fd := moves
  exact guarded.remove fd

/-- What is wired from where it is safe is safe where it is wired to. -/
theorem obeys_wireOnto (guarded : T.Guarded n S) {source : Fd} (safe : source ∈ S) (target : Fd) :
    (wireOnto source target).Obeys (childDiscipline n)
      (fun wired U => wired = true → U.Guarded n (target :: S)) T := by
  rw [wireOnto]
  split
  next same =>
    obtain rfl : source = target := by simpa using same
    refine ⟨trivial, fun r U moves wired => ?_⟩
    rcases r with reason | _
    · cases wired
    · obtain rfl : U = T.after (.reply (.setCloexec source false) (.ok ())) := moves
      rw [Table.after]
      split
      next b bound => exact guarded.bind (guarded.safe _ (Table.mem_of_find? bound) safe) _ _
      next => exact guarded.cons safe
  next other =>
    refine ⟨trivial, fun r U moves wired => ?_⟩
    rcases r with reason | _
    · cases wired
    · obtain ⟨bound, rfl⟩ := moves
      rw [if_neg (by simpa using other)]
      exact guarded.duplicate safe bound target

/-- Every wiring starts from a number of `S`, or from one that was wired before. -/
def Fed (S : List Fd) : List (Fd × Fd) → Prop
  | [] => True
  | (source, target) :: wirings => source ∈ S ∧ Fed (target :: S) wirings

theorem obeys_wireAll {wirings : List (Fd × Fd)} (fed : Fed S wirings) (guarded : T.Guarded n S) :
    (wireAll wirings).Obeys (childDiscipline n) (fun wired U => wired = true → U.Sealed n) T := by
  induction wirings generalizing S T with
  | nil => exact fun _ => guarded.isSealed
  | cons wiring wirings ih =>
    obtain ⟨source, target⟩ := wiring
    refine Obeys.bind ((obeys_wireOnto guarded fed.1 target).mono ?_)
    rintro (_ | _) U holds
    · exact nofun
    · exact ih fed.2 (holds rfl)

/-- A plan that is run in a sealed table asks for nothing but images that get nothing of others. -/
theorem obeys_run (plan : Plan) (isSealed : T.Sealed n) :
    plan.run.Obeys (childDiscipline n) (fun _ U => U.Sealed n) T := by
  let Tries (c : Call) : Prop := c = .exit Status.unresolvedCode ∨
    (∃ signal disposition, c = .setDisposition signal disposition) ∨
    ∃ path argv envv, c = .execute path argv envv
  have only : plan.run.Only Tries := plan.run_only (fun _ _ => .inr (.inl ⟨_, _, rfl⟩))
    (fun _ _ => .inr (.inr ⟨_, _, _, rfl⟩)) (.inl rfl)
  refine Obeys.of_only only ?_ isSealed
  rintro _ (rfl | ⟨_, _, rfl⟩ | ⟨_, _, _, rfl⟩) T isSealed
  · exact ⟨trivial, nofun⟩
  · exact ⟨trivial, fun r U moves => (show U = T from moves) ▸ isSealed⟩
  · exact ⟨isSealed, fun r U moves => (show U = T from moves) ▸ isSealed⟩

/-- A child that can set itself up so that its table is sealed keeps to its discipline. -/
theorem obeys_childOf {fds : List Fd} {setUp : Program Bool} (plan : Plan)
    (guarded : T.Guarded n S)
    (setsUp : ∀ U, U.Guarded n S → setUp.Obeys (childDiscipline n)
      (fun wired V => wired = true → V.Sealed n) U) :
    (childOf fds setUp plan).Obeys (childDiscipline n) (fun _ _ => True) T := by
  refine Obeys.bind ((obeys_closeAll guarded fds).mono fun _ U guarded => ?_)
  refine Obeys.bind ((setsUp U guarded).mono ?_)
  rintro (_ | _) V holds
  · exact ⟨trivial, nofun⟩
  · exact (obeys_run plan (holds rfl)).mono fun _ _ _ => trivial

/-- At a fork the numbers that are a launch's own are safe for its child. -/
theorem guarded_of_own (sound : T.Sound) (bound : ∀ fd ∈ S, (T.own n).isBound fd = true) :
    T.Guarded n S := by
  constructor
  · intro e he
    by_cases made : e.2.description.maker = none
    · exact .inr (.inl made)
    · exact .inl (sound.marked e he made)
  · intro e he listed
    obtain ⟨b, found⟩ := Option.isSome_iff_exists.1 (bound e.1 listed)
    obtain ⟨found, maker⟩ := Table.find?_of_find?_own sound.distinct found
    have listed := Table.find?_of_mem sound.distinct he
    obtain rfl : e.2 = b := Option.some.inj (listed.symm.trans found)
    exact .inr maker

/-- A launch over pipes may start its child once it has both pipes. -/
theorem mayStart_pipedChild {pipes : PipePair} (plan : Plan)
    (toRead : T.isBound pipes.toRead = true) (fromWrite : T.isBound pipes.fromWrite = true) :
    (launchDiscipline n).mayStart T (pipedChild pipes plan) := by
  rintro T sound rfl
  have guarded : T.Guarded n [pipes.toRead, pipes.fromWrite] :=
    guarded_of_own sound (by simp [toRead, fromWrite])
  rw [pipedChild_eq]
  refine obeys_childOf plan guarded fun U guarded => obeys_wireAll ?_ guarded
  simp [Fed]

/-- A launch on a terminal may start its child once it has the slave. -/
theorem mayStart_attachedChild {pair : TerminalPair} (plan : Plan)
    (slave : T.isBound pair.slave = true) :
    (launchDiscipline n).mayStart T (attachedChild pair plan) := by
  rintro T sound rfl
  have guarded : T.Guarded n [pair.slave] := guarded_of_own sound (by simp [slave])
  rw [attachedChild_eq]
  refine obeys_childOf plan guarded fun U guarded => ⟨trivial, fun session V moves => ?_⟩
  obtain rfl : V = U := moves
  rcases session with reason | _
  · exact nofun
  refine ⟨trivial, fun control W moves => ?_⟩
  obtain rfl : W = V := moves
  rcases control with reason | _
  · exact nofun
  refine obeys_wireAll ?_ guarded
  simp [Fed]

end Launcher

end Coprocess
