import Coprocess.Proofs.Holdings
import Mathlib.Logic.Relation

/-!
# Launches side by side

The threads of a process launch coprocesses and use their handles all at the same time, request by
request in any order.  A fork copies the whole table, with whatever other threads have made by then
and not closed yet, so that each child starts out with descriptors that are none of its business.

A `Family` is such a process with its children.  At any step a launch begins, a use of a handle
begins, or somebody makes one request: a launch, a child on its way to its image, or an image.  A
thread that launches several coprocesses one after the other is one launch after the other here, so
that nothing is lost by numbering launches and not threads.

`Family.Apart` is what each step preserves: whatever a launch has made is marked, each launch keeps
to its discipline with what is its own, and each child keeps to its own until it has an image, which
then has nothing of another launch.  The main statement is `Family.images_apart`.
-/

namespace Coprocess

open Host Program

variable {n : Nat} {T U : Table Made}

/-! ### With the native allocator -/

/-- The program with the native allocator in charge of its terminals. -/
def Host.Program.natively {α : Type} (p : Program α) : Program α :=
  (p.allocatedBy Allocator.native ()).bind fun r => .done r.1

/-- The native allocator changes nothing about what a child keeps to, which asks for no terminal. -/
theorem Host.Program.Obeys.natively_child {p : Program Unit} {Q : Unit → Table Made → Prop}
    (obeys : p.Obeys (childDiscipline n) Q T) :
    (p.allocatedBy Allocator.native ()).Obeys (childDiscipline n) (fun r U => Q r.1 U) T :=
  obeys.allocatedBy (fun _ _ _ => False.elim) (fun _ _ => False.elim) fun _ _ => False.elim

/-- With the native allocator in charge a launch keeps to its discipline. -/
theorem Host.Program.Obeys.natively {α : Type} {p : Program α} {Q : α → Table Made → Prop}
    (obeys : p.Obeys (launchDiscipline n) Q T) : p.natively.Obeys (launchDiscipline n) Q T := by
  refine Obeys.bind (obeys.allocatedBy ?_ ?_ ?_)
  · exact fun _ modes size _ => Allocator.obeys_acquireNative modes size
  · exact fun _ _ _ => trivial
  · exact fun own child may T sound same =>
      Obeys.bind ((may T sound same).natively_child.mono fun _ _ _ => trivial)

/-! ### Launches and the use of their handles -/

/-- A launch that a thread can set out on. -/
inductive Launch where
  | piped (l : Launcher) (c : Command) (block : List Bytes)
  | terminal (l : Launcher) (c : Command) (options : TerminalOptions) (block : List Bytes)

/-- What has come of a launch: its handle, unless it failed or the handle was given up, and the
clones of its input that are still open. -/
structure Holding where
  handle : Option Handle := none
  clones : List Fd := []

/-- The descriptors that are held. -/
def Holding.fds (held : Holding) : List Fd :=
  match held.handle with
  | some h => h.transport.fds ++ held.clones
  | none => held.clones

/-- What the launch does. -/
def Launch.program : Launch → Program (Except Failure Handle)
  | piped l c block => l.openPiped c block
  | terminal l c options block => l.openTerminal c options block

/-- The launch from its beginning to what it leaves. -/
def Launch.begun (l : Launch) : Program Holding :=
  l.program.natively.bind fun r => .done { handle := r.toOption }

theorem Launch.obeys_begun (l : Launch) (T : Table Made) :
    l.begun.Obeys (launchDiscipline n) (fun held U => U.Holds held.fds) T := by
  have launches : l.program.Obeys (launchDiscipline n)
      (fun r U => ∀ h, r = .ok h → U.Holds h.transport.fds) T := by
    cases l with
    | piped l c block => exact l.obeys_openPiped c block
    | terminal l c options block => exact l.obeys_openTerminal c options block
  refine Obeys.bind (launches.natively.mono ?_)
  rintro (reason | h) U held
  · exact .nil U
  · show U.Holds (h.transport.fds ++ [])
    rw [List.append_nil]
    exact held h rfl

/-- What a thread can do with what it holds. -/
inductive Use where
  | perform (operation : Operation)
  | closeClone (fd : Fd)
  | drop

/-- What a use does, and what is held afterwards.  Nothing is done with what is not held. -/
def Holding.use (held : Holding) : Use → Program Holding
  | .perform operation =>
    match held.handle with
    | none => return held
    | some h => do
      let (h, answer) ← (h.perform operation).natively
      return { handle := some h, clones := answer.cloned?.toList ++ held.clones }
  | .closeClone fd =>
    if fd ∈ held.clones then do
      let _ ← Program.request (.close fd)
      return { held with clones := held.clones.erase fd }
    else return held
  | .drop =>
    match held.handle with
    | none => return held
    | some h => do
      h.drop.natively
      return { held with handle := none }

theorem Holding.obeys_use {held : Holding} (holds : T.Holds held.fds) (u : Use) :
    (held.use u).Obeys (launchDiscipline n) (fun held U => U.Holds held.fds) T := by
  obtain ⟨handle, clones⟩ := held
  cases u with
  | perform operation =>
    cases handle with
    | none => exact holds
    | some h => exact Obeys.bind ((Handle.obeys_perform holds operation).natively.mono
        fun _ _ holds => holds)
  | closeClone fd =>
    rw [use]
    split
    next listed =>
      have split (fds : List Fd) : (fds ++ clones).Perm (fd :: (fds ++ clones.erase fd)) :=
        ((List.perm_cons_erase listed).append_left fds).trans List.perm_middle
      have isBound : T.isBound fd = true := by
        refine holds.2 fd ?_
        cases handle with
        | none => exact listed
        | some h => exact List.mem_append_right _ listed
      refine Obeys.request (c := .close fd) isBound fun _ U moves => ?_
      obtain rfl : U = T.remove fd := moves
      cases handle with
      | none => exact (holds.perm (split [])).remove
      | some h => exact (holds.perm (split h.transport.fds)).remove
    next => exact holds
  | drop =>
    cases handle with
    | none => exact holds
    | some h => exact Obeys.bind ((Handle.obeys_drop holds).natively.mono fun _ _ holds => holds)

/-! ### Steps of a process -/

/-- `p.Advances n T p' U`: a program that the launch `n` answers for makes one step, a request or
none, from the table `T` to `U`. -/
inductive Host.Program.Advances (n : Nat) {α : Type} :
    Program α → Table Made → Program α → Table Made → Prop
  | call {c : Call} {next : c.Reply → Program α} {r : c.Reply} {T U : Table Made} :
    T.Moves n (.reply c r) U → Advances n (.call c next) T (next r) U
  | unroll {σ β : Type} {s : σ} {body : σ → Program (σ ⊕ β)} {next : β → Program α}
    {T : Table Made} : Advances n (.loop s body next) T (Program.unroll s body next) T

theorem Host.Program.Advances.obeys_child {α : Type} {p p' : Program α} {Q : α → Table Made → Prop}
    (advances : p.Advances n T p' U) (obeys : p.Obeys (childDiscipline n) Q T) :
    p'.Obeys (childDiscipline n) Q U := by
  cases advances with
  | call moves => exact obeys.2 _ _ moves
  | unroll => exact obeys.unroll

/-- A step of a launch is one with what is its own, and touches nothing else. -/
theorem Host.Program.Advances.obeys_own {α : Type} {p p' : Program α} {Q : α → Table Made → Prop}
    (advances : p.Advances n T p' U) (sound : T.Sound)
    (obeys : p.Obeys (launchDiscipline n) Q (T.own n)) :
    U.Sound ∧ p'.Obeys (launchDiscipline n) Q (U.own n) ∧ ∀ m, m ≠ n → U.own m = T.own m := by
  cases advances with
  | call moves =>
    obtain ⟨soundAfter, ownMoves, apart⟩ := moves.own sound obeys.1
    exact ⟨soundAfter, obeys.2 _ _ ownMoves, apart⟩
  | unroll => exact ⟨sound, obeys.unroll, fun _ _ => rfl⟩

/-- A child of a launch, with what it has open.  Its program is what it does between fork and image;
once that is over it is the image, about which nothing is known. -/
structure Child where
  launch : Nat
  table : Table Made
  program : Option (Program Unit)

/-- A step of a child.  An image, which starts with what is not marked, closes and duplicates what
it finds and opens what no launch has made. -/
inductive Child.Step : Child → Child → Prop
  | advances {n : Nat} {T U : Table Made} {p p' : Program Unit} :
    p.Advances n T p' U → Step ⟨n, T, some p⟩ ⟨n, U, some p'⟩
  | executes {n : Nat} {T : Table Made} {path : Bytes} {argv envv : List Bytes}
    {next : Errno → Program Unit} :
    Step ⟨n, T, some (.call (.execute path argv envv) next)⟩ ⟨n, T.kept, none⟩
  | works {n : Nat} {T U : Table Made} :
    (∀ e ∈ U, e.2.description.maker = none ∨ ∃ e' ∈ T, e'.2.description = e.2.description) →
    Step ⟨n, T, none⟩ ⟨n, U, none⟩

/-- A process that launches coprocesses, and the children it has started. -/
structure Family where
  table : Table Made
  /-- What each launch is at, or what has come of it. -/
  launches : List (Program Holding) := []
  children : List Child := []

/-- A step of a family: one request of somebody, or what somebody sets out on. -/
inductive Family.Step : Family → Family → Prop
  | launch (s : Family) (l : Launch) : Step s { s with launches := s.launches ++ [l.begun] }
  /-- A launch that is over is used by its thread. -/
  | use {s : Family} {n : Nat} {held : Holding} (u : Use) :
    s.launches[n]? = some (.done held) →
    Step s { s with launches := s.launches.set n (held.use u) }
  | advances {s : Family} {n : Nat} {p p' : Program Holding} {U : Table Made} :
    s.launches[n]? = some p → p.Advances n s.table p' U →
    Step s { s with table := U, launches := s.launches.set n p' }
  /-- The child starts with a copy of the whole table. -/
  | forks {s : Family} {n : Nat} {child : Program Unit} {next : Except Errno Pid → Program Holding}
    (pid : Pid) : s.launches[n]? = some (.fork child next) →
    Step s { s with launches := s.launches.set n (next (.ok pid))
                    children := s.children ++ [⟨n, s.table, some child⟩] }
  | cannotFork {s : Family} {n : Nat} {child : Program Unit}
    {next : Except Errno Pid → Program Holding} (reason : Errno) :
    s.launches[n]? = some (.fork child next) →
    Step s { s with launches := s.launches.set n (next (.error reason)) }
  | child {s : Family} (before after : List Child) {c c' : Child} :
    s.children = before ++ c :: after → c.Step c' →
    Step s { s with children := before ++ c' :: after }
  /-- A child may be gone at any time. -/
  | childEnds {s : Family} (before after : List Child) {c : Child} :
    s.children = before ++ c :: after → Step s { s with children := before ++ after }

/-! ### What each step preserves -/

/-- A child on its way keeps to its discipline, and its image has nothing of another launch. -/
def Child.Apart (c : Child) : Prop :=
  match c.program with
  | some p => p.Obeys (childDiscipline c.launch) (fun _ _ => True) c.table
  | none => ∀ e ∈ c.table, e.2.description.IsFor c.launch

theorem Child.Step.apart {c c' : Child} (step : c.Step c') (apart : c.Apart) : c'.Apart := by
  cases step with
  | advances advances => exact advances.obeys_child apart
  | executes =>
    -- The discipline lets a child ask for an image only if what is marked is all that is foreign.
    intro e he
    obtain ⟨listed, unmarked⟩ := List.mem_filter.1 he
    rcases apart.1 e listed with marked | ours
    · simp [marked] at unmarked
    · exact ours
  | works found =>
    intro e he
    rcases found e he with unmade | ⟨e', he', same⟩
    · exact .inl unmade
    · exact same ▸ apart e' he'

namespace Family

variable {s s' : Family}

/-- What a launch has made is marked, and everybody keeps to a discipline. -/
structure Apart (s : Family) : Prop where
  sound : s.table.Sound
  launches : ∀ n (p : Program Holding), s.launches[n]? = some p →
    p.Obeys (launchDiscipline n) (fun held U => U.Holds held.fds) (s.table.own n)
  children : ∀ c ∈ s.children, c.Apart

/-- One launch goes on, and the others do not notice. -/
theorem Apart.set (apart : s.Apart) {p : Program Holding} (sound : U.Sound)
    (obeys : p.Obeys (launchDiscipline n) (fun held U => U.Holds held.fds) (U.own n))
    (others : ∀ m, m ≠ n → U.own m = s.table.own m) :
    Apart { s with table := U, launches := s.launches.set n p } := by
  refine ⟨sound, fun m p' found => ?_, apart.children⟩
  rw [List.getElem?_set] at found
  split at found
  next same =>
    subst same
    split at found
    · cases found
      exact obeys
    · cases found
  next other =>
    rw [others m (Ne.symm other)]
    exact apart.launches m p' found

/-- **A step** of anybody keeps everybody apart. -/
theorem Step.apart (step : s.Step s') (apart : s.Apart) : s'.Apart := by
  cases step with
  | launch l =>
    refine ⟨apart.sound, fun n p found => ?_, apart.children⟩
    rw [List.getElem?_append] at found
    split at found
    · exact apart.launches n p found
    -- A new launch keeps to its discipline wherever it starts from.
    · obtain rfl := List.mem_singleton.1 (List.mem_of_getElem? found)
      exact l.obeys_begun _
  | use u found =>
    exact apart.set apart.sound (Holding.obeys_use (apart.launches _ _ found) u) fun _ _ => rfl
  | advances found advances =>
    obtain ⟨sound, obeys, others⟩ := advances.obeys_own apart.sound (apart.launches _ _ found)
    exact apart.set sound obeys others
  | forks pid found =>
    obtain ⟨mayStart, goesOn⟩ := apart.launches _ _ found
    have left := apart.set apart.sound (goesOn (.ok pid)) fun _ _ => rfl
    refine ⟨left.sound, left.launches, fun c among => ?_⟩
    rcases List.mem_append.1 among with among | new
    · exact apart.children c among
    · obtain rfl := List.mem_singleton.1 new
      exact mayStart s.table apart.sound rfl
  | cannotFork reason found =>
    exact apart.set apart.sound ((apart.launches _ _ found).2 (.error reason)) fun _ _ => rfl
  | child before after among step =>
    have children := apart.children
    rw [among, List.forall_mem_append, List.forall_mem_cons] at children
    refine ⟨apart.sound, apart.launches, ?_⟩
    rw [List.forall_mem_append, List.forall_mem_cons]
    exact ⟨children.1, step.apart children.2.1, children.2.2⟩
  | childEnds before after among =>
    have children := apart.children
    rw [among, List.forall_mem_append, List.forall_mem_cons] at children
    refine ⟨apart.sound, apart.launches, ?_⟩
    rw [List.forall_mem_append]
    exact ⟨children.1, children.2.2⟩

/-- A process that has launched nothing yet. -/
theorem apart_of_unmade (distinct : T.Distinct)
    (unmade : ∀ e ∈ T, e.2.description.maker = none) : Apart { table := T } :=
  ⟨⟨distinct, fun e he made => absurd (unmade e he) made⟩, nofun, nofun⟩

theorem apart_of_reaches (reaches : Relation.ReflTransGen Step s s') (apart : s.Apart) :
    s'.Apart := by
  induction reaches with
  | refl => exact apart
  | tail _ step ih => exact step.apart ih

/-- **Images are kept apart.**  Whatever launches and uses of their handles go on side by side, and
in whatever order they and the children that they start make their requests, the image that a launch
has started has nothing open that another launch has made. -/
theorem images_apart (distinct : T.Distinct) (unmade : ∀ e ∈ T, e.2.description.maker = none)
    (reaches : Relation.ReflTransGen Step { table := T } s) {c : Child} (among : c ∈ s.children)
    (isImage : c.program = none) :
    ∀ e ∈ c.table, ∀ m, e.2.description.maker = some m → m = c.launch := by
  intro e he m made
  have apart := (apart_of_reaches reaches (apart_of_unmade distinct unmade)).children c among
  rw [Child.Apart, isImage] at apart
  rcases apart e he with unmade | ours
  · rw [unmade] at made
    cases made
  · exact Option.some.inj (made.symm.trans ours)

/-- A launch that forks while another has made its first pipe, in a process whose standard streams
are closed, so that the ends of that pipe are where the child's streams go. -/
theorem images_apart_of_closed_streams :
    ∃ s : Family, Relation.ReflTransGen Step { table := [] } s ∧
      s.table.own 1 = [(1, ⟨⟨.pipeWriter 0, some 1⟩, true⟩), (0, ⟨⟨.pipeReader 0, some 1⟩, true⟩)] ∧
      ∃ c ∈ s.children, c.program = none ∧ c.launch = 0 ∧ c.table.map Prod.fst = [2, 1, 0] ∧
        ∀ e ∈ c.table, ∀ m, e.2.description.maker = some m → m = c.launch := by
  let l : Launch := .piped {} (.shell "exit;") []
  have start : Relation.ReflTransGen Step { table := [] } _ := .refl
  have run := (start.tail (.launch _ l)).tail (.launch _ l)
  -- The second launch gets as far as its first pipe.
  have run := run.tail (.advances (n := 1) rfl (.call (r := false) (by exact rfl)))
  have run := run.tail (.advances (n := 1) rfl (.call (r := Except.ok none) (by exact rfl)))
  have run := run.tail (.advances (n := 1) rfl
    (.call (r := Except.ok (0, 1)) (by exact ⟨rfl, rfl, by decide, 0, rfl⟩)))
  -- The first one gets as far as its fork.
  have run := run.tail (.advances (n := 0) rfl (.call (r := false) (by exact rfl)))
  have run := run.tail (.advances (n := 0) rfl (.call (r := Except.ok none) (by exact rfl)))
  have run := run.tail (.advances (n := 0) rfl
    (.call (r := Except.ok (2, 3)) (by exact ⟨rfl, rfl, by decide, 1, rfl⟩)))
  have run := run.tail (.advances (n := 0) rfl
    (.call (r := Except.ok (4, 5)) (by exact ⟨rfl, rfl, by decide, 2, rfl⟩)))
  have run := run.tail (.forks (n := 0) 9 rfl)
  -- The child closes the parent's ends, wires its own and becomes its image.
  have run := run.tail (.child [] [] rfl (.advances (.call (r := Except.ok ()) (by exact rfl))))
  have run := run.tail (.child [] [] rfl (.advances (.call (r := Except.ok ()) (by exact rfl))))
  have run := run.tail (.child [] [] rfl
    (.advances (.call (r := Except.ok 0) (by exact ⟨rfl, rfl⟩))))
  have run := run.tail (.child [] [] rfl
    (.advances (.call (r := Except.ok 1) (by exact ⟨rfl, rfl⟩))))
  have run := run.tail (.child [] [] rfl
    (.advances (.call (r := Except.ok 2) (by exact ⟨rfl, rfl⟩))))
  have run := run.tail (.child [] [] rfl
    (.advances (.call (r := Except.ok .default) (by exact rfl))))
  have run := run.tail (.child [] [] rfl .executes)
  refine ⟨_, run, rfl, _, List.mem_singleton_self _, rfl, rfl, rfl, ?_⟩
  exact images_apart (T := []) List.nodup_nil nofun run (List.mem_singleton_self _) rfl

end Family

end Coprocess
