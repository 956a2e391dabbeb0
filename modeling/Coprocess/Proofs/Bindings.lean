import Coprocess.Proofs.Passage

/-!
# How the machine binds descriptors

`Table.Passes` says what requests do to a descriptor table, for any host.  The machine keeps to it:
whatever it opens for a process gets a number that was free, and is the only thing that is new.

All that the machine opens goes through `World.bindNext`.  `World.Opens` is what is known of the
outcome of such a request, and one lemma for each way of opening carries it from there to
`openFile`.  The main statement is `World.takesThrough_of_answer`.
-/

namespace Coprocess.Host

open Outcome

/-- The requests that bind numbers or give them up. -/
def Call.Rebinds : Call → Prop
  | .openFile .. => True
  | .close _ => True
  | .duplicate .. => True
  | .duplicateOnto .. => True
  | .setCloexec .. => True
  | .pipe _ => True
  | .openMaster => True
  | _ => False

namespace World

variable {w w' : World} {pid : Pid} {p : Process} {mode : OpenMode}

theorem process_of_process? (there : w.process? pid = some p) : w.process pid = p := by
  rw [process, there]
  rfl

/-- What is bound next gets a number that was free. -/
theorem process?_of_bindNext {least fd : Fd} {d : Description} {cloexec : Bool}
    (there : w.process? pid = some p) (bound : w.bindNext pid least d cloexec = .ok (fd, w')) :
    p.table.find? fd = none ∧
      w'.process? pid = some { p with table := (fd, ⟨d, cloexec⟩) :: p.table } := by
  rw [bindNext, process_of_process? there] at bound
  split at bound
  · cases bound
  next found =>
    cases bound
    have lowest : fd = p.table.lowestFree least := by
      rw [Process.nextFd] at found
      grind
    have free : p.table.find? fd = none := by
      simpa [Table.isBound, lowest] using p.table.isBound_lowestFree least
    refine ⟨free, ?_⟩
    rw [process?_modify, there, Option.map_some, Table.bind, Table.remove_of_free free]

/-! ### Ways of opening -/

/-- What can come of a request of the process `p` to open something that satisfies `P`. -/
def Opens (p : Process) (pid : Pid) (cloexec : Bool) (P : Description → Prop)
    (o : Outcome (Except Errno Fd)) : Prop :=
  ∀ r w', o = .reply r w' → ∃ p', w'.process? pid = some p' ∧
    match r with
    | .ok fd => p.table.find? fd = none ∧ ∃ d, P d ∧ p'.table = (fd, ⟨d, cloexec⟩) :: p.table
    | .error _ => p'.table = p.table

section

variable {cloexec : Bool} {P : Description → Prop}

theorem Opens.mono {P' : Description → Prop} {o : Outcome (Except Errno Fd)}
    (opens : Opens p pid cloexec P o) (weaker : ∀ d, P d → P' d) : Opens p pid cloexec P' o := by
  intro r w' same
  obtain ⟨p', there, opened⟩ := opens r w' same
  refine ⟨p', there, ?_⟩
  cases r with
  | error => exact opened
  | ok fd =>
    obtain ⟨free, d, holds, table⟩ := opened
    exact ⟨free, d, weaker d holds, table⟩

theorem opens_refuse (there : w.process? pid = some p) (reason : Errno) :
    Opens p pid cloexec P (refuse w reason) := by
  rintro _ _ ⟨⟩
  exact ⟨p, there, rfl⟩

theorem opens_orRefuse {β : Type} {r : Except Errno β} {next : β → Outcome (Except Errno Fd)}
    (there : w.process? pid = some p) (opens : ∀ b, r = .ok b → Opens p pid cloexec P (next b)) :
    Opens p pid cloexec P (orRefuse w r next) := by
  cases r with
  | error reason => exact opens_refuse there reason
  | ok b => exact opens b rfl

theorem opens_unless {c : Prop} [Decidable c] {reason : Errno} {o : Outcome (Except Errno Fd)}
    (there : w.process? pid = some p) (opens : Opens p pid cloexec P o) :
    Opens p pid cloexec P (if c then refuse w reason else o) := by
  split
  · exact opens_refuse there reason
  · exact opens

/-- Binding something opens it, if what is done besides is not done to processes. -/
theorem opens_bindNext {made : World} {least : Fd} {d : Description} {f : World → World}
    (there : w.process? pid = some p) (holds : P d) (kept : made.process? pid = w.process? pid)
    (finished : ∀ w', (f w').process? pid = w'.process? pid) :
    Opens p pid cloexec P (orRefuse w (made.bindNext pid least d cloexec) fun r =>
      .reply (.ok r.1) (f r.2)) := by
  refine opens_orRefuse there fun pair bound => ?_
  rintro _ _ ⟨⟩
  obtain ⟨free, after⟩ := process?_of_bindNext (kept.trans there) bound
  exact ⟨_, (finished _).trans after, free, d, holds, rfl⟩

theorem opens_openMaster (there : w.process? pid = some p) (holds : P (.master w.terminals.size)) :
    Opens p pid cloexec P (w.openMaster pid cloexec) :=
  opens_bindNext (f := id) there holds rfl fun _ => rfl

theorem opens_duplicate (there : w.process? pid = some p) {fd least : Fd}
    (holds : ∀ b, p.table.find? fd = some b → P b.description) :
    Opens p pid cloexec P (w.duplicate pid fd least cloexec) := by
  refine opens_orRefuse there fun d found => ?_
  rw [description?, process_of_process? there] at found
  split at found
  next b bound =>
    cases found
    exact opens_bindNext (f := id) there (holds b bound) rfl fun _ => rfl
  next => cases found

end

theorem opens_openEntry (there : w.process? pid = some p) (n : FileNumber) (mode : OpenMode) :
    Opens p pid mode.cloexec (fun _ => True) (w.openEntry pid n mode) :=
  opens_bindNext (f := id) there trivial rfl fun _ => rfl

theorem opens_openContent (there : w.process? pid = some p) (content : Bytes) (mode : OpenMode) :
    Opens p pid mode.cloexec (fun _ => True) (w.openContent pid content mode) := by
  refine opens_openEntry ?_ _ mode
  exact there

theorem opens_openSlave (there : w.process? pid = some p) (n : Nat) (mode : OpenMode) :
    Opens p pid mode.cloexec (fun d => d = .slave n) (w.openSlave pid n mode) :=
  opens_unless there
    (opens_bindNext (f := fun w' => w'.setTerminal n _) there rfl rfl fun _ => rfl)

theorem opens_openDevice (there : w.process? pid = some p) (d : Device) (mode : OpenMode) :
    Opens p pid mode.cloexec (fun _ => True) (w.openDevice pid d mode) := by
  have bound (d : Description) :
      Opens p pid mode.cloexec (fun _ => True) (w.bindReply (w.bindNext pid 0 d mode.cloexec)) :=
    opens_bindNext (f := id) there trivial rfl fun _ => rfl
  cases d with
  | null => exact bound _
  | full => exact bound _
  | zero => exact bound _
  | multiplexer => exact opens_openMaster there trivial
  | slave n => exact (opens_openSlave there n mode).mono fun _ _ => trivial
  | ownTerminal =>
    rw [openDevice]
    split
    · exact (opens_openSlave there _ mode).mono fun _ _ => trivial
    · exact opens_refuse there _
  | descriptor fd => exact opens_orRefuse there fun d _ => bound d
  | arguments n =>
    rw [openDevice]
    split <;> exact opens_openContent there _ mode
  | environment n =>
    rw [openDevice]
    split <;> exact opens_openContent there _ mode

theorem opens_openExisting (there : w.process? pid = some p) (n : FileNumber) (mode : OpenMode) :
    Opens p pid mode.cloexec (fun _ => True) (w.openExisting pid n mode) := by
  have entry := opens_openEntry there n mode
  rw [openExisting]
  split
  · exact opens_unless there (opens_unless there entry)
  · exact opens_openDevice there _ mode
  · exact opens_refuse there _
  · exact opens_refuse there _
  · exact opens_unless there entry
  · refine opens_unless there (opens_openEntry ?_ n mode)
    exact there

theorem opens_openFile (there : w.process? pid = some p) (path : Bytes) (mode : OpenMode) :
    Opens p pid mode.cloexec (fun _ => True) (w.openFile pid path mode) := by
  refine opens_unless there (opens_orRefuse there fun target _ => ?_)
  cases target.file with
  | some n => exact opens_unless there (opens_openExisting there n mode)
  | none =>
    refine opens_unless there (opens_unless there (opens_unless there (opens_openEntry ?_ _ mode)))
    -- The file that is made first is nothing to the process.
    exact there

/-! ### Through a request -/

/-- The machine takes the table of a process through an exchange, up to the terminals that are hung
up because of it. -/
def TakesThrough (w : World) (pid : Pid) (x : Exchange) (w' : World) : Prop :=
  ∃ w₀, (w' = w₀ ∨ w' = w₀.settle) ∧ (w.process pid).table.Passes x (w₀.process pid).table

theorem takesThrough_close {fd : Fd} {r : Except Errno Unit}
    (answered : w.answer pid (.close fd) = .reply r w') :
    w.TakesThrough pid (.reply (.close fd) r) w' := by
  simp only [answer, close, description?] at answered
  split at answered
  next b bound =>
    cases answered
    exact ⟨_, .inr rfl, by rw [process_modify_of_bound bound]; rfl⟩
  next unbound =>
    cases answered
    exact ⟨_, .inl rfl, (Table.remove_of_free unbound).symm⟩

theorem takesThrough_pipe (there : w.process? pid = some p) {cloexec : Bool}
    {r : Except Errno (Fd × Fd)} (answered : w.answer pid (.pipe cloexec) = .reply r w') :
    w.TakesThrough pid (.reply (.pipe cloexec) r) w' := by
  refine ⟨w', .inl rfl, ?_⟩
  simp only [answer, pipe] at answered
  split at answered
  · cases answered
    rfl
  next readEnd one first =>
    obtain ⟨readFree, there₁⟩ :=
      process?_of_bindNext (w := { w with pipes := w.pipes.push [] }) there first
    split at answered
    · cases answered
      rfl
    next writeEnd two second =>
      cases answered
      obtain ⟨writeFree, there₂⟩ := process?_of_bindNext there₁ second
      rw [process_of_process? there, process_of_process? there₂]
      rw [Table.find?_cons] at writeFree
      split at writeFree
      · cases writeFree
      next different => exact ⟨readFree, writeFree, different, _, rfl⟩

/-- **What the machine does to descriptors** is what is assumed of every host. -/
theorem takesThrough_of_answer (there : w.process? pid = some p) {c : Call} (rebinds : c.Rebinds)
    {r : c.Reply} (answered : w.answer pid c = .reply r w') :
    w.TakesThrough pid (.reply c r) w' := by
  cases c with
  | close fd => exact takesThrough_close answered
  | pipe cloexec => exact takesThrough_pipe there answered
  | duplicateOnto fd target =>
    obtain ⟨w₀, settled, same⟩ := table_of_duplicateOnto answered
    exact ⟨w₀, settled, same⟩
  | setCloexec fd on =>
    obtain ⟨w₀, settled, same⟩ := table_of_setCloexec answered
    exact ⟨w₀, settled, same⟩
  | openFile path mode =>
    obtain ⟨p', there', opened⟩ := opens_openFile there path mode r w' answered
    refine ⟨w', .inl rfl, ?_⟩
    rw [process_of_process? there, process_of_process? there']
    cases r with
    | error => exact opened
    | ok fd =>
      obtain ⟨free, d, -, same⟩ := opened
      exact ⟨free, d, same⟩
  | openMaster =>
    obtain ⟨p', there', opened⟩ :=
      opens_openMaster (P := fun d => ∃ n, d = .master n) there ⟨_, rfl⟩ r w' answered
    refine ⟨w', .inl rfl, ?_⟩
    rw [process_of_process? there, process_of_process? there']
    cases r with
    | error => exact opened
    | ok fd =>
      obtain ⟨free, _, ⟨n, rfl⟩, same⟩ := opened
      exact ⟨free, n, same⟩
  | duplicate fd least cloexec =>
    obtain ⟨p', there', opened⟩ :=
      opens_duplicate (P := fun d => ∃ b, p.table.find? fd = some b ∧ d = b.description) there
        (fun b bound => ⟨b, bound, rfl⟩) r w' answered
    refine ⟨w', .inl rfl, ?_⟩
    rw [process_of_process? there, process_of_process? there']
    cases r with
    | error => exact opened
    | ok fd' =>
      obtain ⟨free, _, ⟨b, bound, rfl⟩, same⟩ := opened
      exact ⟨free, b, bound, same⟩
  | _ => exact rebinds.elim

end World

end Coprocess.Host
