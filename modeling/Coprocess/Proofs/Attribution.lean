import Coprocess.Proofs.Bindings
import Coprocess.Proofs.Discipline

/-!
# Makers on the machine

The machine does not know which launch has made what a process has open.  A table that says so is
bookkeeping, and `Table.unsigned` takes the makers out of it.  Whenever the machine answers a
request about descriptors the bookkeeping can follow: the makers can be put down, in the way of
`Table.Moves`, so that without them the table is again what the process has open.  What is shown of
all such moves therefore holds on the machine.

The main statement is `World.Signed.signsThrough`.
-/

namespace Coprocess.Host

variable {n : Nat} {T : Table Made}

namespace Table

/-! ### Without the makers -/

/-- The table as a process has it, which does not say who has made what. -/
def unsigned (T : Table Made) : Table Description :=
  T.map fun e => (e.1, ⟨e.2.description.what, e.2.cloexec⟩)

theorem find?_unsigned (T : Table Made) (fd : Fd) :
    T.unsigned.find? fd = (T.find? fd).map fun b => ⟨b.description.what, b.cloexec⟩ := by
  induction T with
  | nil => rfl
  | cons e T ih =>
    obtain ⟨n, b⟩ := e
    show find? ((n, _) :: unsigned T) fd = _
    rw [find?_cons, find?_cons, ih]
    split <;> rfl

theorem find?_unsigned_eq_none_iff {fd : Fd} :
    T.unsigned.find? fd = none ↔ T.find? fd = none := by
  rw [find?_unsigned, Option.map_eq_none_iff]

theorem unsigned_remove (T : Table Made) (fd : Fd) :
    (T.remove fd).unsigned = T.unsigned.remove fd := by
  rw [unsigned, unsigned, remove, remove, List.filter_map]
  rfl

theorem unsigned_bind (T : Table Made) (fd : Fd) (b : Binding Made) :
    (T.bind fd b).unsigned = T.unsigned.bind fd ⟨b.description.what, b.cloexec⟩ :=
  congrArg _ (T.unsigned_remove fd)

theorem unsigned_duplicate (T : Table Made) (source target : Fd) :
    (T.duplicate source target).unsigned = T.unsigned.duplicate source target := by
  rw [duplicate, duplicate, find?_unsigned]
  cases T.find? source with
  | none => rfl
  | some b => exact T.unsigned_bind target _

theorem unsigned_after (T : Table Made) (x : Exchange) :
    (T.after x).unsigned = T.unsigned.after x := by
  unfold after
  split
  · exact T.unsigned_remove _
  · split
    · rfl
    · exact T.unsigned_duplicate _ _
  · rw [find?_unsigned]
    split
    next bound =>
      rw [bound]
      exact T.unsigned_bind _ _
    next unbound =>
      rw [unbound]
      rfl
  · rfl

end Table

/-! ### On the machine -/

namespace World

variable {w w' : World} {pid : Pid} {p : Process}

/-- The bookkeeping `T` is about what a process has open.  All that lead to one terminal's master
say the same of its maker, and whoever opens the path of that terminal gets its slave. -/
structure Signed (w : World) (pid : Pid) (T : Table Made) : Prop where
  unsigned : T.unsigned = (w.process pid).table
  numbered : ∀ e ∈ T, ∀ k, e.2.description.what = .master k → k < w.terminals.size
  agreed : ∀ e ∈ T, ∀ e' ∈ T, ∀ k, e.2.description.what = .master k →
    e'.2.description.what = .master k → e.2.description.maker = e'.2.description.maker
  named : ∀ e ∈ T, ∀ k, e.2.description.what = .master k → ∀ mode fd w',
    w.openFile pid (Bytes.ofText (slavePath k)) mode = .reply (.ok fd) w' →
    w.openSlave pid k mode = .reply (.ok fd) w'

/-- What is opened by a path that names terminals is the slave of each of them. -/
theorem Signed.eq_slave (signed : w.Signed pid T) (there : w.process? pid = some p) {path : Bytes}
    {mode : OpenMode} {fd : Fd} (opened : w.openFile pid path mode = .reply (.ok fd) w')
    {d : Description} (found : (w'.process pid).table.find? fd = some ⟨d, mode.cloexec⟩)
    {e : Fd × Binding Made} (listed : e ∈ T) {k : Nat} (master : e.2.description.what = .master k)
    (isNamed : path = Bytes.ofText (slavePath k)) : d = .slave k := by
  subst isNamed
  obtain ⟨p', there', free, d', rfl, same⟩ :=
    opens_openSlave there k mode _ _ (signed.named e listed k master mode fd w' opened)
  rw [process_of_process? there', same, Table.find?_cons, if_pos rfl] at found
  exact (congrArg Binding.description (Option.some.inj found)).symm

/-- Somebody answers for what is opened, whatever its path names. -/
theorem Signed.exists_names (signed : w.Signed pid T) (there : w.process? pid = some p)
    {path : Bytes} {mode : OpenMode} {fd : Fd}
    (opened : w.openFile pid path mode = .reply (.ok fd) w') {d : Description}
    (found : (w'.process pid).table.find? fd = some ⟨d, mode.cloexec⟩) :
    ∃ maker, T.Names path ⟨d, maker⟩ := by
  by_cases names : ∃ e ∈ T, ∃ k, e.2.description.what = .master k ∧
      path = Bytes.ofText (slavePath k)
  · obtain ⟨e, listed, k, master, isNamed⟩ := names
    obtain rfl := signed.eq_slave there opened found listed master isNamed
    refine ⟨e.2.description.maker, fun e' listed' k' master' isNamed' => ?_⟩
    obtain ⟨⟩ := signed.eq_slave there opened found listed' master' isNamed'
    rw [signed.agreed e listed e' listed' k master master']
  · exact ⟨none, fun e listed k master isNamed =>
      absurd ⟨e, listed, k, master, isNamed⟩ names⟩

theorem isBound_of_duplicateOnto {source target fd : Fd}
    (answered : w.answer pid (.duplicateOnto source target) = .reply (.ok fd) w') :
    (w.process pid).table.isBound source = true := by
  simp only [answer, duplicateOnto, description?] at answered
  split at answered
  next b bound =>
    rw [Table.isBound, bound]
    rfl
  next => cases answered

/-- The bookkeeping can go on from `T` through an exchange that the launch `n` takes part in, after
which the machine is `w'`, up to the terminals that are hung up because of it. -/
def SignsThrough (n : Nat) (T : Table Made) (pid : Pid) (x : Exchange) (w' : World) : Prop :=
  ∃ w₀ U, (w' = w₀ ∨ w' = w₀.settle) ∧ U.unsigned = (w₀.process pid).table ∧ T.Moves n x U

/-- Nothing has changed. -/
theorem signsThrough_of_same (same : (w'.process pid).table = T.unsigned) {x : Exchange}
    (moves : T.Moves n x T) : SignsThrough n T pid x w' := ⟨w', T, .inl rfl, same.symm, moves⟩

theorem Signed.openFile (signed : w.Signed pid T) (there : w.process? pid = some p) {path : Bytes}
    {mode : OpenMode} {r : Except Errno Fd}
    (answered : w.answer pid (.openFile path mode) = .reply r w') :
    SignsThrough n T pid (.reply (.openFile path mode) r) w' := by
  obtain ⟨p', there', opened⟩ := opens_openFile there path mode r w' answered
  have before := signed.unsigned
  rw [process_of_process? there] at before
  have after := process_of_process? there'
  cases r with
  | error => exact signsThrough_of_same (by rw [after, before, opened]) rfl
  | ok fd =>
    obtain ⟨free, d, -, same⟩ := opened
    have found : (w'.process pid).table.find? fd = some ⟨d, mode.cloexec⟩ := by
      rw [after, same, Table.find?_cons, if_pos rfl]
    obtain ⟨maker, names⟩ := signed.exists_names there answered found
    rw [← before, Table.find?_unsigned_eq_none_iff] at free
    refine ⟨w', _, .inl rfl, ?_, free, _, names, rfl⟩
    rw [after, same, ← before]
    rfl

/-- A new terminal has a number that none had before. -/
theorem Signed.openMaster (signed : w.Signed pid T) (there : w.process? pid = some p)
    {r : Except Errno Fd} (answered : w.answer pid .openMaster = .reply r w') :
    SignsThrough n T pid (.reply .openMaster r) w' := by
  obtain ⟨p', there', opened⟩ :=
    opens_openMaster (P := fun d => d = .master w.terminals.size) there rfl r w' answered
  have before := signed.unsigned
  rw [process_of_process? there] at before
  have after := process_of_process? there'
  cases r with
  | error => exact signsThrough_of_same (by rw [after, before, opened]) rfl
  | ok fd =>
    obtain ⟨free, _, rfl, same⟩ := opened
    rw [← before, Table.find?_unsigned_eq_none_iff] at free
    refine ⟨w', _, .inl rfl, ?_, free, w.terminals.size, ?_, rfl⟩
    · rw [after, same, ← before]
      rfl
    · intro e listed master
      exact Nat.lt_irrefl _ (signed.numbered e listed _ master)

/-- Only a master has a slave's name, and the name is that of its own slave. -/
theorem exists_of_slaveName {fd : Fd} {slaveName : String}
    (named : w.slaveName pid fd = .ok slaveName) :
    ∃ b k, (w.process pid).table.find? fd = some b ∧ b.description = .master k ∧
      slaveName = slavePath k := by
  rw [World.slaveName, terminalOf, description?] at named
  split at named
  next b bound =>
    obtain ⟨d, mark⟩ := b
    cases d with
    | master k =>
      cases named
      exact ⟨_, k, bound, rfl, rfl⟩
    | slave k =>
      -- It has none, hung up or not.
      cases hungUp : (w.terminal k).hungUp <;> simp [bind, Except.bind, hungUp] at named
    | _ => cases named
  next => cases named

theorem Signed.slaveName (signed : w.Signed pid T) {fd : Fd} {r : Except Errno String}
    (answered : w.answer pid (.slaveName fd) = .reply r w') :
    SignsThrough n T pid (.reply (.slaveName fd) r) w' := by
  obtain ⟨named, rfl⟩ : w.slaveName pid fd = r ∧ w = w' := by
    cases answered
    exact ⟨rfl, rfl⟩
  refine signsThrough_of_same signed.unsigned.symm ?_
  cases r with
  | error => rfl
  | ok slaveName =>
    obtain ⟨b, k, bound, master, rfl⟩ := exists_of_slaveName named
    rw [← signed.unsigned, Table.find?_unsigned, Option.map_eq_some_iff] at bound
    obtain ⟨b', bound, rfl⟩ := bound
    exact ⟨rfl, b', k, bound, master, rfl⟩

/-- **The bookkeeping follows the machine** through every request about descriptors. -/
theorem Signed.signsThrough (signed : w.Signed pid T) (there : w.process? pid = some p) {c : Call}
    (rebinds : c.Rebinds ∨ ∃ fd, c = .slaveName fd) {r : c.Reply}
    (answered : w.answer pid c = .reply r w') : SignsThrough n T pid (.reply c r) w' := by
  rcases rebinds with rebinds | ⟨fd, rfl⟩
  · obtain ⟨w₀, settled, passes⟩ := takesThrough_of_answer there rebinds answered
    rw [← signed.unsigned] at passes
    cases c with
    | openFile => exact signed.openFile there answered
    | openMaster => exact signed.openMaster there answered
    | close fd => exact ⟨w₀, _, settled, (T.unsigned_remove fd).trans passes.symm, rfl⟩
    | setCloexec => exact ⟨w₀, _, settled, (T.unsigned_after _).trans passes.symm, rfl⟩
    | duplicateOnto source target =>
      refine ⟨w₀, _, settled, (T.unsigned_after _).trans passes.symm, ?_⟩
      cases r with
      | error => rfl
      | ok fd =>
        have bound := isBound_of_duplicateOnto answered
        rw [← signed.unsigned, Table.isBound, Table.find?_unsigned, Option.isSome_map] at bound
        exact ⟨bound, rfl⟩
    | pipe cloexec =>
      rcases r with reason | ⟨readEnd, writeEnd⟩
      · exact ⟨w₀, T, settled, passes.symm, rfl⟩
      · obtain ⟨readFree, writeFree, different, k, same⟩ := passes
        rw [Table.find?_unsigned_eq_none_iff] at readFree writeFree
        refine ⟨w₀, _, settled, ?_, readFree, writeFree, different, k, rfl⟩
        exact same.symm
    | duplicate source least cloexec =>
      cases r with
      | error => exact ⟨w₀, T, settled, passes.symm, rfl⟩
      | ok fd =>
        obtain ⟨free, b, bound, same⟩ := passes
        rw [Table.find?_unsigned_eq_none_iff] at free
        rw [Table.find?_unsigned, Option.map_eq_some_iff] at bound
        obtain ⟨b', bound, rfl⟩ := bound
        refine ⟨w₀, _, settled, ?_, free, b', bound, rfl⟩
        exact same.symm
    | _ => exact rebinds.elim
  · exact signed.slaveName answered

end World

end Coprocess.Host
