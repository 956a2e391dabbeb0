import Coprocess.Host.Kernel
import Coprocess.Proofs.Passage

/-!
# Descriptors and who has made them

When several launches share a process, its descriptor table holds what all of them have made.  Here
every open file says which launch has made it (`Made`), and `Table.Moves` follows a table through
the requests of one launch.

What a program may do to a table is a `Discipline`: which requests it may make, given what it has
open, and which children it may leave a copy of the table.  `Program.Obeys` says that a program
keeps to a discipline whatever it is answered, and what holds when it comes to a result.  It is
defined by recursion on the program, each loop with an invariant of its own, and composes: one lemma
for each way of building programs.

Main statements:
* `Obeys.bind` and `Obeys.unroll`, for programs in sequence and for loops;
* `Obeys.of_only`, for programs that only make requests of a kind;
* `Obeys.allocatedBy`, for the native allocator.
-/

namespace Coprocess

open Host Program

variable {α β : Type}

/-! ### Tables that say who has made what -/

/-- What a descriptor leads to, and which launch has made that, if one has. -/
structure Made where
  what : Description
  maker : Option Nat := none
deriving DecidableEq

namespace Host.Table

/-- If a path names the slave of a terminal whose master is open, it leads there; the slave is made
by whoever has made the terminal. -/
def Names (T : Table Made) (path : Bytes) (d : Made) : Prop :=
  ∀ e ∈ T, ∀ k, e.2.description.what = .master k → path = Bytes.ofText (World.slavePath k) →
    d = ⟨.slave k, e.2.description.maker⟩

/-- The table `T` of a process can become `U` through an exchange that the launch `n` takes part in.
New descriptors have numbers that were free, and a descriptor that is given to the host to close is
gone, whatever the answer. -/
def Moves (n : Nat) (T : Table Made) (x : Exchange) (U : Table Made) : Prop :=
  match x with
  | .reply (.close fd) _ => U = T.remove fd
  | .reply (.pipe cloexec) (.ok (readEnd, writeEnd)) =>
    T.find? readEnd = none ∧ T.find? writeEnd = none ∧ readEnd ≠ writeEnd ∧ ∃ k,
      U = (writeEnd, ⟨⟨.pipeWriter k, some n⟩, cloexec⟩) ::
        (readEnd, ⟨⟨.pipeReader k, some n⟩, cloexec⟩) :: T
  | .reply .openMaster (.ok fd) =>
    T.find? fd = none ∧ ∃ k, (∀ e ∈ T, e.2.description.what ≠ .master k) ∧
      U = (fd, ⟨⟨.master k, some n⟩, true⟩) :: T
  | .reply (.slaveName fd) (.ok slaveName) =>
    U = T ∧ ∃ b k, T.find? fd = some b ∧ b.description.what = .master k ∧
      slaveName = World.slavePath k
  | .reply (.openFile path mode) (.ok fd) =>
    T.find? fd = none ∧ ∃ d, T.Names path d ∧ U = (fd, ⟨d, mode.cloexec⟩) :: T
  | .reply (.duplicate source _ cloexec) (.ok fd) =>
    T.find? fd = none ∧ ∃ b, T.find? source = some b ∧ U = (fd, ⟨b.description, cloexec⟩) :: T
  -- Only what is open can be duplicated.
  | .reply (.duplicateOnto source target) (.ok _) =>
    T.isBound source = true ∧ U = if source = target then T else T.duplicate source target
  -- An allocator that hands out a pair has made a terminal and opened both sides.
  | .reply (.acquireTerminal _ _) (.ok pair) =>
    T.find? pair.master = none ∧ T.find? pair.slave = none ∧ pair.master ≠ pair.slave ∧ ∃ k,
      U = (pair.slave, ⟨⟨.slave k, some n⟩, true⟩) ::
        (pair.master, ⟨⟨.master k, some n⟩, true⟩) :: T
  | x => U = T.after x

end Host.Table

/-! ### Keeping to a discipline -/

/-- What a launch is held to: which requests it may make, and which children it may start, when a
table is what it has open. -/
structure Discipline where
  launch : Nat
  mayAsk : Table Made → Call → Prop
  mayStart : Table Made → Program Unit → Prop

/-- Whatever it is answered from the table `T` on, the program keeps to the discipline, and if it
comes to a result, `Q` holds of that and of the table then. -/
def Host.Program.Obeys (D : Discipline) :
    {α : Type} → Program α → (α → Table Made → Prop) → Table Made → Prop
  | _, done a, Q, T => Q a T
  | _, call c next, Q, T =>
    D.mayAsk T c ∧ ∀ r U, T.Moves D.launch (.reply c r) U → (next r).Obeys D Q U
  | _, fork child next, Q, T => D.mayStart T child ∧ ∀ r, (next r).Obeys D Q T
  | _, spawn _ _, _, _ => False
  | _, loop s body next, Q, T =>
    ∃ I : _ → Table Made → Prop, I s T ∧ ∀ s T, I s T → (body s).Obeys D (fun x U =>
      match x with
      | .inl s => I s U
      | .inr b => (next b).Obeys D Q U) T

namespace Host.Program

variable {D : Discipline} {Q Q' : α → Table Made → Prop} {T : Table Made}

theorem Obeys.mono {p : Program α} (obeys : p.Obeys D Q T) (weaker : ∀ a U, Q a U → Q' a U) :
    p.Obeys D Q' T := by
  induction p generalizing T with
  | done a => exact weaker a T obeys
  | call c next ih => exact ⟨obeys.1, fun r U moves => ih r (obeys.2 r U moves) weaker⟩
  | fork child next _ ih => exact ⟨obeys.1, fun r => ih r (obeys.2 r) weaker⟩
  | spawn => exact obeys.elim
  | loop s body next ihBody ih =>
    obtain ⟨I, start, keeps⟩ := obeys
    refine ⟨I, start, fun s T holds => ihBody s (keeps s T holds) fun x U holds => ?_⟩
    cases x with
    | inl s => exact holds
    | inr b => exact ih b holds weaker

/-- One program after another: the second starts with what the first has left. -/
theorem Obeys.bind {p : Program α} {f : α → Program β} {R : β → Table Made → Prop}
    (obeys : p.Obeys D (fun a U => (f a).Obeys D R U) T) : (p.bind f).Obeys D R T := by
  induction p generalizing T with
  | done a => exact obeys
  | call c next ih => exact ⟨obeys.1, fun r U moves => ih r (obeys.2 r U moves)⟩
  | fork child next _ ih => exact ⟨obeys.1, fun r => ih r (obeys.2 r)⟩
  | spawn => exact obeys.elim
  | loop s body next _ ih =>
    obtain ⟨I, start, keeps⟩ := obeys
    refine ⟨I, start, fun s T holds => (keeps s T holds).mono fun x U holds => ?_⟩
    cases x with
    | inl s => exact holds
    | inr b => exact ih b holds

theorem Obeys.request {c : Call} {f : c.Reply → Program α} (may : D.mayAsk T c)
    (next : ∀ r U, T.Moves D.launch (.reply c r) U → (f r).Obeys D Q U) :
    ((Program.request c).bind f).Obeys D Q T := ⟨may, next⟩

/-- A loop that keeps to a discipline still does after it was unrolled. -/
theorem Obeys.unroll {σ : Type} {s : σ} {body : σ → Program (σ ⊕ β)} {next : β → Program α}
    (obeys : (loop s body next).Obeys D Q T) : (Program.unroll s body next).Obeys D Q T := by
  obtain ⟨I, start, keeps⟩ := obeys
  refine Obeys.bind ((keeps s T start).mono fun x U holds => ?_)
  cases x with
  | inl s => exact ⟨I, holds, keeps⟩
  | inr b => exact holds

/-- What comes of a program is what one of its runs yields. -/
theorem Obeys.and_yields {p : Program α} (obeys : p.Obeys D Q T) :
    p.Obeys D (fun a U => Q a U ∧ ∃ t, p.Yields t a) T := by
  induction p generalizing T with
  | done a => exact ⟨obeys, [], .done a⟩
  | call c next ih =>
    refine ⟨obeys.1, fun r U moves => (ih r (obeys.2 r U moves)).mono ?_⟩
    rintro a V ⟨holds, t, run⟩
    exact ⟨holds, _, .call run⟩
  | fork child next _ ih =>
    refine ⟨obeys.1, fun r => (ih r (obeys.2 r)).mono ?_⟩
    rintro a V ⟨holds, t, run⟩
    exact ⟨holds, _, .fork run⟩
  | spawn => exact obeys.elim
  | @loop α σ β s body next ihBody ih =>
    -- The invariant says besides that a run of the loop so far goes on to every run from there.
    obtain ⟨I, start, keeps⟩ := obeys
    refine ⟨fun s' T => I s' T ∧ ∀ t a, (loop s' body next).Yields t a →
      ∃ t, (loop s body next).Yields t a, ⟨start, fun t a run => ⟨t, run⟩⟩, ?_⟩
    rintro s' T ⟨holds, goesBack⟩
    refine (ihBody s' (keeps s' T holds)).mono ?_
    rintro (s'' | b) U ⟨holds, t, round⟩
    · refine ⟨holds, fun t' a run => goesBack (t ++ t') a (.again round run)⟩
    · refine (ih b holds).mono ?_
      rintro a V ⟨holds, t', run⟩
      exact ⟨holds, goesBack (t ++ t') a (.stop round run)⟩

/-- A program that only makes requests of a kind keeps up what these keep up. -/
theorem Obeys.of_only {P : Call → Prop} {J : Table Made → Prop} {p : Program α} (only : p.Only P)
    (keeps : ∀ c, P c → ∀ T, J T →
      D.mayAsk T c ∧ ∀ r U, T.Moves D.launch (.reply c r) U → J U) (holds : J T) :
    p.Obeys D (fun _ U => J U) T := by
  induction p generalizing T with
  | done => exact holds
  | call c next ih =>
    obtain ⟨may, stays⟩ := keeps c only.1 T holds
    exact ⟨may, fun r U moves => ih r (only.2 r) (stays r U moves)⟩
  | fork => exact only.elim
  | spawn => exact only.elim
  | loop s body next ihBody ih =>
    refine ⟨fun _ => J, holds, fun s T holds => (ihBody s (only.1 s) holds).mono ?_⟩
    rintro (s | b) U holds
    · exact holds
    · exact ih b (only.2 b) holds

/-- With the native allocator in charge a program keeps to a discipline that the allocator can keep
to: making a terminal comes to what the discipline takes it for, and giving one back is told. -/
theorem Obeys.allocatedBy {p : Program α} (obeys : p.Obeys D Q T)
    (acquires : ∀ T modes size, D.mayAsk T (.acquireTerminal modes size) →
      (Allocator.acquireNative modes size).Obeys D
        (fun r U => T.Moves D.launch (.reply (.acquireTerminal modes size) r) U) T)
    (releases : ∀ T slaveName, D.mayAsk T (.releaseTerminal slaveName) →
      D.mayAsk T (.log (.terminalReleased slaveName)))
    (starts : ∀ T child, D.mayStart T child →
      D.mayStart T ((child.allocatedBy Allocator.native ()).bind fun _ => .done ())) :
    (p.allocatedBy Allocator.native ()).Obeys D (fun r U => Q r.1 U) T := by
  induction p generalizing T with
  | done a => exact obeys
  | call c next ih =>
    by_cases ofAcquire : ∃ modes size, c = .acquireTerminal modes size
    · obtain ⟨modes, size, rfl⟩ := ofAcquire
      refine Obeys.bind (Obeys.bind ((acquires T modes size obeys.1).mono fun r U moves => ?_))
      exact ih r (obeys.2 r U moves)
    · by_cases ofRelease : ∃ slaveName, c = .releaseTerminal slaveName
      · obtain ⟨slaveName, rfl⟩ := ofRelease
        refine ⟨releases T slaveName obeys.1, fun _ U moves => ?_⟩
        exact ih (.ok ()) (obeys.2 (.ok ()) U moves)
      · have ofAcquire (modes size) : c ≠ .acquireTerminal modes size :=
          fun h => ofAcquire ⟨modes, size, h⟩
        have ofRelease (slaveName) : c ≠ .releaseTerminal slaveName :=
          fun h => ofRelease ⟨slaveName, h⟩
        rw [allocatedBy_call_of_ne ofAcquire ofRelease]
        exact ⟨obeys.1, fun r U moves => ih r (obeys.2 r U moves)⟩
  | fork child next _ ih => exact ⟨starts T child obeys.1, fun r => ih r (obeys.2 r)⟩
  | spawn => exact obeys.elim
  | loop s body next ihBody ih =>
    obtain ⟨I, start, keeps⟩ := obeys
    refine ⟨fun st => I st.1, start, fun st T holds => ?_⟩
    refine Obeys.bind ((ihBody st.1 (keeps st.1 T holds)).mono ?_)
    rintro ⟨s | b, _⟩ U holds
    · exact holds
    · exact ih b holds

end Host.Program

end Coprocess
