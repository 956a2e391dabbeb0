import Coprocess.Launch
import Coprocess.Proofs.Descriptors

/-!
# What a child finds on its descriptors

Between fork and image a child puts its side of the channel on the standard streams.  The ends may
lie on any numbers, the standard ones included, so that each request may destroy an end that is
still needed, or leave a mark that closes a stream together with the old image.

Wiring one number onto another duplicates it, whether the two are the same or not
(`afterAll_of_wireOnto`), and a list of wirings is a list of duplications
(`afterAll_of_wireAll`).  What the child finds is then a matter of which number is which.  The main
statement is `children_wired`, for a launch over pipes and one on a terminal.
-/

namespace Coprocess

open Host Launcher Program

variable {δ : Type} {T T' : Table δ} {t : List Exchange}

/-- The table in which numbers have been duplicated onto others, in order. -/
def Host.Table.wired (T : Table δ) (wirings : List (Fd × Fd)) : Table δ :=
  wirings.foldl (fun T wiring => T.duplicate wiring.1 wiring.2) T

theorem Host.Table.wired_cons (wiring : Fd × Fd) (wirings : List (Fd × Fd)) :
    T.wired (wiring :: wirings) = (T.duplicate wiring.1 wiring.2).wired wirings := rfl

/-! ### Closing and wiring -/

/-- Closing descriptors leaves all others as they are.  Whether those to be closed are closed
depends on the answers. -/
theorem Launcher.find?_afterAll_of_closeAll {fds : List Fd} {u : Unit}
    (run : (closeAll fds).Yields t u) (fd : Fd) :
    (T.afterAll t).find? fd = T.find? fd ∨ fd ∈ fds ∧ (T.afterAll t).find? fd = none := by
  induction fds generalizing t T with
  | nil =>
    obtain ⟨rfl, -⟩ := yields_done_iff.1 run
    exact .inl rfl
  | cons first fds ih =>
    obtain ⟨r, t, rfl, rest⟩ := yields_call_iff.1 run
    have closing : (T.after (.reply (.close first) r)).find? fd = T.find? fd ∨
        fd = first ∧ (T.after (.reply (.close first) r)).find? fd = none := by
      cases r with
      | error => exact .inl rfl
      | ok =>
        show (T.remove first).find? fd = _ ∨ _ ∧ (T.remove first).find? fd = _
        rw [Table.find?_remove]
        split
        next same => exact .inr ⟨same, rfl⟩
        next => exact .inl rfl
    rw [Table.afterAll_cons, List.mem_cons]
    rcases ih rest with kept | ⟨listed, closed⟩
    · rw [kept]
      rcases closing with same | ⟨rfl, closed⟩
      · exact .inl same
      · exact .inr ⟨.inl rfl, closed⟩
    · exact .inr ⟨.inr listed, closed⟩

/-- A number that is wired onto another is duplicated there. -/
theorem afterAll_of_wireOnto {fd target : Fd} (run : (wireOnto fd target).Yields t true) :
    T.afterAll t = T.duplicate fd target := by
  rw [wireOnto] at run
  split at run
  next same =>
    obtain rfl : fd = target := by simpa using same
    obtain ⟨r, t, rfl, rest⟩ := yields_call_iff.1 run
    obtain ⟨rfl, ok⟩ := yields_done_iff.1 rest
    -- Clearing the mark of a number is duplicating it onto itself.
    cases r with
    | error => cases ok
    | ok => rfl
  next other =>
    obtain ⟨r, t, rfl, rest⟩ := yields_call_iff.1 run
    obtain ⟨rfl, ok⟩ := yields_done_iff.1 rest
    cases r with
    | error => cases ok
    | ok => exact if_neg (by simpa using other)

theorem yields_wireAll_cons_iff {fd target : Fd} {wirings : List (Fd × Fd)} :
    (wireAll ((fd, target) :: wirings)).Yields t true ↔
      ∃ t₁ t₂, t = t₁ ++ t₂ ∧ (wireOnto fd target).Yields t₁ true ∧
        (wireAll wirings).Yields t₂ true := by
  rw [wireAll, bind_eq, yields_bind_iff]
  constructor
  · rintro ⟨t₁, wired, t₂, rfl, first, rest⟩
    cases wired with
    | true => exact ⟨t₁, t₂, rfl, first, rest⟩
    | false => cases (yields_done_iff.1 rest).2
  · rintro ⟨t₁, t₂, rfl, first, rest⟩
    exact ⟨t₁, true, t₂, rfl, first, rest⟩

/-- Wirings are duplications in the same order. -/
theorem afterAll_of_wireAll {wirings : List (Fd × Fd)} (run : (wireAll wirings).Yields t true) :
    T.afterAll t = T.wired wirings := by
  induction wirings generalizing t T with
  | nil =>
    obtain ⟨rfl, -⟩ := yields_done_iff.1 run
    rfl
  | cons wiring wirings ih =>
    obtain ⟨t₁, t₂, rfl, first, rest⟩ := yields_wireAll_cons_iff.1 run
    rw [Table.afterAll_append, afterAll_of_wireOnto first, ih rest]
    rfl

/-- Two numbers are wired onto the standard streams, the second of them twice.  The second must not
be the standard input, which the first wiring would take from it. -/
theorem find?_wired_of_two {U : Table δ} {source other : Fd} {a b : δ} {markA markB : Bool}
    (ofSource : U.find? source = some ⟨a, markA⟩) (ofOther : U.find? other = some ⟨b, markB⟩)
    (spared : other ≠ 0) (fd : Fd) :
    (U.wired [(source, standardInput), (other, standardOutput),
      (standardOutput, standardError)]).find? fd =
      if fd = 0 then some ⟨a, false⟩ else if fd = 1 then some ⟨b, false⟩
      else if fd = 2 then some ⟨b, false⟩ else U.find? fd := by
  have first (fd : Fd) : (U.duplicate source 0).find? fd =
      if fd = 0 then some ⟨a, false⟩ else U.find? fd :=
    Table.find?_duplicate_of_bound ofSource
  have kept : (U.duplicate source 0).find? other = some ⟨b, markB⟩ := by
    rw [first, if_neg spared, ofOther]
  have second (fd : Fd) : ((U.duplicate source 0).duplicate other 1).find? fd =
      if fd = 1 then some ⟨b, false⟩ else (U.duplicate source 0).find? fd :=
    Table.find?_duplicate_of_bound kept
  have shared : ((U.duplicate source 0).duplicate other 1).find? 1 = some ⟨b, false⟩ := by
    rw [second, if_pos rfl]
  have third (fd : Fd) : (((U.duplicate source 0).duplicate other 1).duplicate 1 2).find? fd =
      if fd = 2 then some ⟨b, false⟩ else ((U.duplicate source 0).duplicate other 1).find? fd :=
    Table.find?_duplicate_of_bound shared
  show (((U.duplicate source 0).duplicate other 1).duplicate 1 2).find? fd = _
  rw [third, second, first]
  grind

/-- One number is wired onto others, itself perhaps among them. -/
theorem find?_wired_of_one {U : Table δ} {source : Fd} {d : δ} {mark : Bool}
    (bound : U.find? source = some ⟨d, mark⟩) (targets : List Fd) (fd : Fd) :
    (U.wired (targets.map fun target => (source, target))).find? fd =
      if fd ∈ targets then some ⟨d, false⟩ else U.find? fd := by
  induction targets generalizing U mark with
  | nil => exact (if_neg List.not_mem_nil).symm
  | cons target targets ih =>
    have first (fd : Fd) : (U.duplicate source target).find? fd =
        if fd = target then some ⟨d, false⟩ else U.find? fd :=
      Table.find?_duplicate_of_bound bound
    -- If the number is wired onto itself it loses its mark, and is still bound.
    have still : ∃ mark, (U.duplicate source target).find? source = some ⟨d, mark⟩ := by
      rw [first, bound]
      split
      · exact ⟨_, rfl⟩
      · exact ⟨_, rfl⟩
    obtain ⟨mark, still⟩ := still
    rw [List.map_cons, Table.wired_cons, ih still, first]
    grind

/-! ### Running a plan -/

/-- A request that leaves every table as it is, whatever the answer. -/
def Host.Call.LeavesTables (c : Call) : Prop :=
  ∀ (δ : Type) (T : Table δ) (r : c.Reply), T.after (.reply c r) = T

/-- What a plan asks for when it is run. -/
theorem Plan.run_only {P : Call → Prop} (p : Plan) (ofDisposition : ∀ s d, P (.setDisposition s d))
    (ofExecute : ∀ path argv, P (.execute path argv p.envv))
    (ofExit : P (.exit Status.unresolvedCode)) : p.run.Only P := by
  have each (candidates : List Candidate) : (p.tryEach candidates).Only P := by
    induction candidates with
    | nil => exact trivial
    | cons c rest ih =>
      refine ⟨ofExecute _ _, fun reason => ?_⟩
      show Only _ (if _ then _ else _)
      split
      · exact ⟨ofExecute _ _, fun _ => trivial⟩
      · exact ih
  have attempts : p.attempts.Only P := by
    rw [Plan.attempts]
    split
    · exact ⟨ofExecute _ _, fun _ => trivial⟩
    · refine ⟨ofExecute _ _, fun reason => ?_⟩
      show Only _ (if _ then _ else _)
      split
      · exact ⟨ofExecute _ _, fun _ => trivial⟩
      · exact trivial
    · exact each _
  exact ⟨ofDisposition _ _, fun _ => attempts.bind fun _ => ⟨ofExit, nofun⟩⟩

/-- Nothing that a plan does before it has an image changes a table. -/
theorem afterAll_of_asks_run {p : Plan} {c : Call} (asks : p.run.Asks t c) : T.afterAll t = T := by
  have only : p.run.Only Call.LeavesTables :=
    p.run_only (fun _ _ _ _ _ => rfl) (fun _ _ _ _ _ => rfl) fun _ _ => nofun
  have kept := asks.forall_of_only only
  clear asks only
  induction t with
  | nil => rfl
  | cons x t ih =>
    rw [List.forall_mem_cons] at kept
    obtain ⟨⟨c, r, rfl, leaves⟩, kept⟩ := kept
    rw [Table.afterAll_cons, leaves, ih kept]

/-! ### Channels in a table -/

/-- The four ends of the two pipes of a launch. -/
structure PipeEnds (δ : Type) where
  toReader : δ
  toWriter : δ
  fromReader : δ
  fromWriter : δ

/-- All four ends, those of the child first. -/
def PipeEnds.all (ends : PipeEnds δ) : List δ :=
  [ends.toReader, ends.fromWriter, ends.toWriter, ends.fromReader]

/-- The pipes have been made in a table: their ends are different and bound to different numbers,
each read end below its write end, all of them marked, and nothing else leads to them. -/
structure Launcher.PipePair.OpenIn (p : PipePair) (T : Table δ) (ends : PipeEnds δ) : Prop where
  sides : ends.all.Nodup
  different : [p.toRead, p.toWrite, p.fromRead, p.fromWrite].Nodup
  to_lt : p.toRead < p.toWrite
  from_lt : p.fromRead < p.fromWrite
  toRead : T.find? p.toRead = some ⟨ends.toReader, true⟩
  toWrite : T.find? p.toWrite = some ⟨ends.toWriter, true⟩
  fromRead : T.find? p.fromRead = some ⟨ends.fromReader, true⟩
  fromWrite : T.find? p.fromWrite = some ⟨ends.fromWriter, true⟩
  alone : ∀ fd b, T.find? fd = some b → b.description ∈ ends.all →
    fd ∈ [p.toRead, p.toWrite, p.fromRead, p.fromWrite]

/-- Whatever leads to an end is marked. -/
theorem Launcher.PipePair.OpenIn.marked {p : PipePair} {ends : PipeEnds δ}
    (made : p.OpenIn T ends) {fd : Fd} {b : Binding δ} (bound : T.find? fd = some b)
    (listed : b.description ∈ ends.all) : b.cloexec = true := by
  have number := made.alone fd b bound listed
  simp only [List.mem_cons, List.not_mem_nil, or_false] at number
  rcases number with rfl | rfl | rfl | rfl
  · cases bound.symm.trans made.toRead
    rfl
  · cases bound.symm.trans made.toWrite
    rfl
  · cases bound.symm.trans made.fromRead
    rfl
  · cases bound.symm.trans made.fromWrite
    rfl

/-- Two pipes that are made one after the other, each end under the lowest free number, are made in
the table that results. -/
theorem Launcher.PipePair.openIn_of_pipe {ends : PipeEnds δ} (sides : ends.all.Nodup)
    (fresh : ∀ fd b, T.find? fd = some b → b.description ∉ ends.all) :
    let first := T.pipe ends.toReader ends.toWriter
    let second := first.2.pipe ends.fromReader ends.fromWriter
    PipePair.OpenIn ⟨first.1.1, first.1.2, second.1.1, second.1.2⟩ second.2 ends := by
  intro first second
  obtain ⟨free₁, free₂, lower⟩ := T.free_pipe ends.toReader ends.toWriter
  obtain ⟨free₃, free₄, lower'⟩ := first.2.free_pipe ends.fromReader ends.fromWriter
  have found (fd : Fd) : second.2.find? fd = _ := Table.find?_pipe _ _ _ fd
  have found' (fd : Fd) : first.2.find? fd = _ := Table.find?_pipe _ _ _ fd
  rw [found'] at free₃ free₄
  refine ⟨sides, ?_, lower, lower', ?_, ?_, ?_, ?_, ?_⟩
  · grind
  · grind
  · grind
  · grind
  · grind
  · intro fd b bound listed
    have absent := fresh fd b
    grind

/-- A terminal has been made in a table: its sides are different and bound to different numbers,
both of them marked, and nothing else leads to them. -/
structure Host.TerminalPair.OpenIn (pair : TerminalPair) (T : Table δ) (master slave : δ) :
    Prop where
  sides : master ≠ slave
  different : pair.master ≠ pair.slave
  ofMaster : T.find? pair.master = some ⟨master, true⟩
  ofSlave : T.find? pair.slave = some ⟨slave, true⟩
  alone : ∀ fd b, T.find? fd = some b → b.description ∈ [master, slave] →
    fd = pair.master ∨ fd = pair.slave

theorem Host.TerminalPair.OpenIn.marked {pair : TerminalPair} {master slave : δ}
    (made : pair.OpenIn T master slave) {fd : Fd} {b : Binding δ} (bound : T.find? fd = some b)
    (listed : b.description ∈ [master, slave]) : b.cloexec = true := by
  rcases made.alone fd b bound listed with rfl | rfl
  · cases bound.symm.trans made.ofMaster
    rfl
  · cases bound.symm.trans made.ofSlave
    rfl

/-! ### What the new image finds -/

/-- From the table `T` of the parent at the fork, the child's new image has come to the table `T'`.
The input is on the first standard stream and the output on the other two, neither is anywhere else,
and what is the parent's is nowhere; of all other descriptors the child has those that the parent
would hand on. -/
structure Wired (T T' : Table δ) (input output : δ) (hidden : List δ) : Prop where
  standardInput : T'.find? 0 = some ⟨input, false⟩
  standardOutput : T'.find? 1 = some ⟨output, false⟩
  standardError : T'.find? 2 = some ⟨output, false⟩
  alone : ∀ fd b, T'.find? fd = some b → b.description = input ∨ b.description = output → fd ≤ 2
  hidden : ∀ fd b, T'.find? fd = some b → b.description ∉ hidden
  inherited : ∀ fd b, 2 < fd → (T'.find? fd = some b ↔ T.find? fd = some b ∧ b.cloexec = false)

/-- A table whose standard streams are in place, and from which nothing else was taken than what is
marked, is one that the new image can start with. -/
theorem wired_of_find? {V : Table δ} {input output : δ} {hidden : List δ} (distinct : V.Distinct)
    (onInput : V.find? 0 = some ⟨input, false⟩) (onOutput : V.find? 1 = some ⟨output, false⟩)
    (onError : V.find? 2 = some ⟨output, false⟩)
    (above : ∀ fd, 2 < fd → V.find? fd = T.find? fd ∨
      V.find? fd = none ∧ ∃ b, T.find? fd = some b ∧ b.cloexec = true)
    (marked : ∀ fd b, T.find? fd = some b → b.description ∈ input :: output :: hidden →
      b.cloexec = true)
    (shown : input ∉ hidden ∧ output ∉ hidden) : Wired T V.kept input output hidden := by
  have inherited (fd : Fd) (b : Binding δ) (high : 2 < fd) :
      V.kept.find? fd = some b ↔ T.find? fd = some b ∧ b.cloexec = false := by
    rw [Table.find?_kept distinct, Option.filter_eq_some_iff]
    rcases above fd high with same | ⟨closed, b', bound, mark⟩
    · rw [same]
      simp
    · rw [closed, bound]
      constructor
      · rintro ⟨⟨⟩, -⟩
      · rintro ⟨⟨⟩, unmarked⟩
        rw [mark] at unmarked
        cases unmarked
  have keptInput : V.kept.find? 0 = some ⟨input, false⟩ := by
    rw [Table.find?_kept distinct, onInput]
    rfl
  have keptOutput : V.kept.find? 1 = some ⟨output, false⟩ := by
    rw [Table.find?_kept distinct, onOutput]
    rfl
  have keptError : V.kept.find? 2 = some ⟨output, false⟩ := by
    rw [Table.find?_kept distinct, onError]
    rfl
  have low (fd : Fd) (b : Binding δ) (bound : V.kept.find? fd = some b)
      (listed : b.description ∈ input :: output :: hidden) : fd ≤ 2 := by
    by_contra high
    obtain ⟨bound, unmarked⟩ := (inherited fd b (Nat.lt_of_not_le high)).1 bound
    have mark := marked fd b bound listed
    rw [unmarked] at mark
    cases mark
  refine ⟨keptInput, keptOutput, keptError, ?_, ?_, inherited⟩
  · rintro fd b bound (same | same)
    · exact low fd b bound (same ▸ List.mem_cons_self)
    · exact low fd b bound (same ▸ List.mem_cons_of_mem _ List.mem_cons_self)
  · intro fd b bound listed
    have few := low fd b bound (List.mem_cons_of_mem _ (List.mem_cons_of_mem _ listed))
    obtain rfl | rfl | rfl : fd = 0 ∨ fd = 1 ∨ fd = 2 := by grind
    · cases keptInput.symm.trans bound
      exact shown.1 listed
    · cases keptOutput.symm.trans bound
      exact shown.2 listed
    · cases keptError.symm.trans bound
      exact shown.2 listed

namespace Launcher

/-! ### Children -/

/-- A child: it closes what it does not need, sets its descriptors up, and runs the plan if that
worked. -/
def childOf (fds : List Fd) (setUp : Program Bool) (plan : Plan) : Program Unit := do
  closeAll fds
  if ← setUp then plan.run else Program.exit Status.setupFailedCode

/-- A request by which a descriptor is closed or a child's descriptors are set up; it neither takes
on an image nor ends the process. -/
def SetsUp (c : Call) : Prop :=
  (∀ path argv envv, c ≠ .execute path argv envv) ∧ ∀ code, c ≠ .exit code

theorem closeAll_setsUp (fds : List Fd) : (closeAll fds).Only SetsUp := by
  induction fds with
  | nil => exact trivial
  | cons fd fds ih => exact ⟨⟨nofun, nofun⟩, fun _ => ih⟩

theorem wireOnto_setsUp (fd target : Fd) : (wireOnto fd target).Only SetsUp := by
  rw [wireOnto]
  split
  · exact ⟨⟨nofun, nofun⟩, fun _ => trivial⟩
  · exact ⟨⟨nofun, nofun⟩, fun _ => trivial⟩

theorem wireAll_setsUp (wirings : List (Fd × Fd)) : (wireAll wirings).Only SetsUp := by
  induction wirings with
  | nil => exact trivial
  | cons wiring wirings ih =>
    refine (wireOnto_setsUp _ _).bind fun wired => ?_
    cases wired with
    | true => exact ih
    | false => exact trivial

/-- A child that asks for an image has set itself up, and runs its plan. -/
theorem yields_of_asks_execute {fds : List Fd} {setUp : Program Bool} {plan : Plan}
    {path : Bytes} {argv envv : List Bytes} (only : setUp.Only SetsUp)
    (asks : (childOf fds setUp plan).Asks t (.execute path argv envv)) :
    ∃ t₁ t₂ t₃, t = t₁ ++ (t₂ ++ t₃) ∧ (closeAll fds).Yields t₁ () ∧ setUp.Yields t₂ true ∧
      plan.run.Asks t₃ (.execute path argv envv) := by
  rcases asks_bind_iff.1 asks with asks | ⟨t₁, _, t', rfl, closing, asks⟩
  · exact absurd rfl ((asks.of_only (closeAll_setsUp fds)).1 path argv envv)
  · rcases asks_bind_iff.1 asks with asks | ⟨t₂, worked, t₃, rfl, setting, asks⟩
    · exact absurd rfl ((asks.of_only only).1 path argv envv)
    · cases worked with
      | true => exact ⟨t₁, t₂, t₃, rfl, closing, setting, asks⟩
      | false =>
        rcases asks_call_iff.1 asks with ⟨-, ⟨⟩⟩ | ⟨⟨⟩, -⟩

/-- A child that exits before it runs its plan could not set itself up. -/
theorem yields_of_asks_exit {fds : List Fd} {setUp : Program Bool} {plan : Plan}
    (only : setUp.Only SetsUp)
    (asks : (childOf fds setUp plan).Asks t (.exit Status.setupFailedCode)) :
    ∃ t₁ t₂, t = t₁ ++ t₂ ∧ setUp.Yields t₂ false := by
  rcases asks_bind_iff.1 asks with asks | ⟨t₁, _, t', rfl, closing, asks⟩
  · exact absurd rfl ((asks.of_only (closeAll_setsUp fds)).2 _)
  · rcases asks_bind_iff.1 asks with asks | ⟨t₂, worked, t₃, rfl, setting, asks⟩
    · exact absurd rfl ((asks.of_only only).2 _)
    · cases worked with
      | true =>
        have only : plan.run.Only fun c => c ≠ .exit Status.setupFailedCode :=
          plan.run_only nofun nofun (by simp [Status.unresolvedCode, Status.setupFailedCode])
        exact absurd rfl (asks.of_only only)
      | false =>
        rcases asks_call_iff.1 asks with ⟨rfl, -⟩ | ⟨⟨⟩, -⟩
        exact ⟨t₁, t₂, by rw [List.append_nil], setting⟩

/-! ### Over pipes -/

theorem pipedChild_eq (pipes : PipePair) (plan : Plan) :
    pipedChild pipes plan = childOf [pipes.toWrite, pipes.fromRead]
      (wireAll [(pipes.toRead, standardInput), (pipes.fromWrite, standardOutput),
        (standardOutput, standardError)]) plan := rfl

/-- A child over pipes that asks for an image has its streams in place. -/
theorem wired_of_pipedChild {pipes : PipePair} {plan : Plan} {ends : PipeEnds δ}
    {path : Bytes} {argv envv : List Bytes} (distinct : T.Distinct) (made : pipes.OpenIn T ends)
    (asks : (pipedChild pipes plan).Asks t (.execute path argv envv)) :
    Wired T (T.afterAll t).kept ends.toReader ends.fromWriter [ends.toWriter, ends.fromReader] := by
  rw [pipedChild_eq] at asks
  obtain ⟨t₁, t₂, t₃, rfl, closing, wiring, running⟩ :=
    yields_of_asks_execute (wireAll_setsUp _) asks
  have closed := find?_afterAll_of_closeAll (T := T) closing
  have different := made.different
  simp only [List.nodup_cons, List.mem_cons, List.not_mem_nil, or_false, not_or] at different
  have toRead : (T.afterAll t₁).find? pipes.toRead = some ⟨ends.toReader, true⟩ := by
    rcases closed pipes.toRead with same | ⟨listed, -⟩
    · rw [same, made.toRead]
    · simp [different.1] at listed
  have fromWrite : (T.afterAll t₁).find? pipes.fromWrite = some ⟨ends.fromWriter, true⟩ := by
    rcases closed pipes.fromWrite with same | ⟨listed, -⟩
    · rw [same, made.fromWrite]
    · simp [Ne.symm different.2.1.2, Ne.symm different.2.2.1] at listed
  -- The write end lies above its read end, so the first wiring does not destroy it.
  have spared : pipes.fromWrite ≠ 0 := Nat.ne_of_gt (Nat.zero_lt_of_lt made.from_lt)
  have final (fd : Fd) := find?_wired_of_two toRead fromWrite spared fd
  have wired := distinct.afterAll (t₁ ++ (t₂ ++ t₃))
  rw [Table.afterAll_append, Table.afterAll_append, afterAll_of_asks_run running,
    afterAll_of_wireAll wiring] at wired ⊢
  refine wired_of_find? wired (final 0) (final 1) (final 2) ?_ (fun fd b => made.marked) ?_
  · intro fd high
    have same := final fd
    rw [if_neg (by grind), if_neg (by grind), if_neg (by grind)] at same
    rw [same]
    rcases closed fd with same | ⟨listed, gone⟩
    · exact .inl same
    · refine .inr ⟨gone, ?_⟩
      simp only [List.mem_cons, List.not_mem_nil, or_false] at listed
      rcases listed with rfl | rfl
      · exact ⟨_, made.toWrite, rfl⟩
      · exact ⟨_, made.fromRead, rfl⟩
  · have sides := made.sides
    simp only [PipeEnds.all, List.nodup_cons] at sides
    grind

/-! ### On a terminal -/

theorem attachedChild_eq (pair : TerminalPair) (plan : Plan) :
    attachedChild pair plan = childOf [pair.master] (attach pair.slave) plan := rfl

theorem attach_setsUp (slave : Fd) : (attach slave).Only SetsUp := by
  refine ⟨⟨nofun, nofun⟩, fun r => ?_⟩
  rcases r with reason | _
  · exact trivial
  · refine ⟨⟨nofun, nofun⟩, fun r => ?_⟩
    rcases r with reason | _
    · exact trivial
    · exact wireAll_setsUp _

/-- Attaching leads a session and takes the terminal, which no table shows, and then wires the slave
onto all streams. -/
theorem afterAll_of_attach {slave : Fd} (run : (attach slave).Yields t true) :
    T.afterAll t = T.wired
      ([standardInput, standardOutput, standardError].map fun target => (slave, target)) := by
  obtain ⟨r, t', rfl, session⟩ := yields_call_iff.1 run
  rcases r with reason | _
  · cases (yields_done_iff.1 session).2
  · obtain ⟨r, t'', rfl, control⟩ := yields_call_iff.1 session
    rcases r with reason | _
    · cases (yields_done_iff.1 control).2
    · show T.afterAll t'' = _
      exact afterAll_of_wireAll control

/-- A child on a terminal that asks for an image has its streams in place. -/
theorem wired_of_attachedChild {pair : TerminalPair} {plan : Plan} {master slave : δ}
    {path : Bytes} {argv envv : List Bytes} (distinct : T.Distinct)
    (made : pair.OpenIn T master slave)
    (asks : (attachedChild pair plan).Asks t (.execute path argv envv)) :
    Wired T (T.afterAll t).kept slave slave [master] := by
  rw [attachedChild_eq] at asks
  obtain ⟨t₁, t₂, t₃, rfl, closing, attaching, running⟩ :=
    yields_of_asks_execute (attach_setsUp _) asks
  have closed := find?_afterAll_of_closeAll (T := T) closing
  have bound : (T.afterAll t₁).find? pair.slave = some ⟨slave, true⟩ := by
    rcases closed pair.slave with same | ⟨listed, -⟩
    · rw [same, made.ofSlave]
    · exact absurd (List.mem_singleton.1 listed) made.different.symm
  have final (fd : Fd) := find?_wired_of_one bound [standardInput, standardOutput, standardError] fd
  have wired := distinct.afterAll (t₁ ++ (t₂ ++ t₃))
  rw [Table.afterAll_append, Table.afterAll_append, afterAll_of_asks_run running,
    afterAll_of_attach attaching] at wired ⊢
  refine wired_of_find? wired (final 0) (final 1) (final 2) ?_ ?_ ?_
  · intro fd high
    have same := final fd
    rw [if_neg (by grind [standardInput, standardOutput, standardError])] at same
    rw [same]
    rcases closed fd with same | ⟨listed, gone⟩
    · exact .inl same
    · obtain rfl := List.mem_singleton.1 listed
      exact .inr ⟨gone, _, made.ofMaster, rfl⟩
  · intro fd b bound listed
    exact made.marked bound (by grind)
  · have sides := made.sides
    grind

end Launcher

/-! ### Setting up that fails -/

/-- A request of a child to set itself up that was refused. -/
def Host.Exchange.Refused : Exchange → Prop
  | .reply (.duplicateOnto _ _) (.error _) => True
  | .reply (.setCloexec _ _) (.error _) => True
  | .reply .newSession (.error _) => True
  | .reply (.controlTerminal _) (.error _) => True
  | _ => False

theorem refused_of_wireOnto {fd target : Fd} (run : (wireOnto fd target).Yields t false) :
    ∃ x ∈ t, x.Refused := by
  rw [wireOnto] at run
  split at run
  all_goals
    obtain ⟨r, t, rfl, rest⟩ := yields_call_iff.1 run
    obtain ⟨rfl, failed⟩ := yields_done_iff.1 rest
    cases r with
    | ok => cases failed
    | error => exact ⟨_, List.mem_cons_self, trivial⟩

theorem refused_of_wireAll {wirings : List (Fd × Fd)} (run : (wireAll wirings).Yields t false) :
    ∃ x ∈ t, x.Refused := by
  induction wirings generalizing t with
  | nil => cases (yields_done_iff.1 run).2
  | cons wiring wirings ih =>
    obtain ⟨t₁, wired, t₂, rfl, first, rest⟩ := yields_bind_iff.1 run
    cases wired with
    | true =>
      obtain ⟨x, hx, refused⟩ := ih rest
      exact ⟨x, List.mem_append_right t₁ hx, refused⟩
    | false =>
      obtain ⟨x, hx, refused⟩ := refused_of_wireOnto first
      exact ⟨x, List.mem_append_left t₂ hx, refused⟩

theorem Launcher.refused_of_attach {slave : Fd} (run : (attach slave).Yields t false) :
    ∃ x ∈ t, x.Refused := by
  obtain ⟨r, t', rfl, session⟩ := yields_call_iff.1 run
  rcases r with reason | _
  · exact ⟨_, List.mem_cons_self, trivial⟩
  · obtain ⟨r, t'', rfl, control⟩ := yields_call_iff.1 session
    rcases r with reason | _
    · exact ⟨_, List.mem_cons_of_mem _ List.mem_cons_self, trivial⟩
    · obtain ⟨x, hx, refused⟩ := refused_of_wireAll control
      exact ⟨x, List.mem_cons_of_mem _ (List.mem_cons_of_mem _ hx), refused⟩

/-- A child over pipes that gives up was refused a request. -/
theorem Launcher.refused_of_pipedChild {pipes : PipePair} {plan : Plan}
    (asks : (pipedChild pipes plan).Asks t (.exit Status.setupFailedCode)) :
    ∃ x ∈ t, x.Refused := by
  rw [pipedChild_eq] at asks
  obtain ⟨t₁, t₂, rfl, failed⟩ := yields_of_asks_exit (wireAll_setsUp _) asks
  obtain ⟨x, hx, refused⟩ := refused_of_wireAll failed
  exact ⟨x, List.mem_append_right t₁ hx, refused⟩

/-- A child on a terminal that gives up was refused a request. -/
theorem Launcher.refused_of_attachedChild {pair : TerminalPair} {plan : Plan}
    (asks : (attachedChild pair plan).Asks t (.exit Status.setupFailedCode)) :
    ∃ x ∈ t, x.Refused := by
  rw [attachedChild_eq] at asks
  obtain ⟨t₁, t₂, rfl, failed⟩ := yields_of_asks_exit (attach_setsUp _) asks
  obtain ⟨x, hx, refused⟩ := refused_of_attach failed
  exact ⟨x, List.mem_append_right t₁ hx, refused⟩

/-! ### The main statement -/

/-- A child that starts with the table `T` runs its plan with its streams in place, or exits because
it was refused a request.  Every image that it asks for is one that it may get, so that this holds
of whichever it gets. -/
structure WiresUp (child : Program Unit) (T : Table δ) (input output : δ) (hidden : List δ) :
    Prop where
  wired : ∀ t path argv envv, child.Asks t (.execute path argv envv) →
    Wired T (T.afterAll t).kept input output hidden
  refused : ∀ t, child.Asks t (.exit Status.setupFailedCode) → ∃ x ∈ t, x.Refused

/-- **Wiring is right for every numbering.**  Whatever numbers the ends of a channel have, whatever
else is open, and whatever the host answers, the child over pipes and the one on a terminal get
their streams in place. -/
theorem Launcher.children_wired (distinct : T.Distinct) (plan : Plan) :
    (∀ (pipes : PipePair) (ends : PipeEnds δ), pipes.OpenIn T ends →
      WiresUp (pipedChild pipes plan) T ends.toReader ends.fromWriter
        [ends.toWriter, ends.fromReader]) ∧
    ∀ (pair : TerminalPair) (master slave : δ), pair.OpenIn T master slave →
      WiresUp (attachedChild pair plan) T slave slave [master] := by
  constructor
  · intro pipes ends made
    exact ⟨fun t path argv envv asks => wired_of_pipedChild distinct made asks,
      fun t asks => refused_of_pipedChild asks⟩
  · intro pair master slave made
    exact ⟨fun t path argv envv asks => wired_of_attachedChild distinct made asks,
      fun t asks => refused_of_attachedChild asks⟩

/-- Pipes and a terminal whose ends lie on the standard streams of a parent that had these
closed. -/
theorem Launcher.children_wired_of_closed_streams :
    (∃ (T : Table Nat) (plan : Plan) (t : List Exchange),
      PipePair.OpenIn ⟨0, 1, 3, 4⟩ T ⟨0, 1, 2, 3⟩ ∧
      (pipedChild ⟨0, 1, 3, 4⟩ plan).Asks t (.execute [0x73] [] []) ∧
      Wired T (T.afterAll t).kept 0 3 [1, 2]) ∧
    ∃ (T : Table Nat) (plan : Plan) (t : List Exchange),
      TerminalPair.OpenIn ⟨1, 0, "/dev/pts/3"⟩ T 1 0 ∧
      (attachedChild ⟨1, 0, "/dev/pts/3"⟩ plan).Asks t (.execute [0x73] [] []) ∧
      Wired T (T.afterAll t).kept 0 0 [1] := by
  let plan : Plan := ⟨⟨[0x73], [], []⟩, .shell []⟩
  constructor
  · let T : Table Nat := [(4, ⟨3, true⟩), (3, ⟨2, true⟩), (1, ⟨1, true⟩), (0, ⟨0, true⟩),
      (2, ⟨9, false⟩)]
    have made : PipePair.OpenIn ⟨0, 1, 3, 4⟩ T ⟨0, 1, 2, 3⟩ := by
      refine ⟨by decide, by decide, by decide, by decide, rfl, rfl, rfl, rfl, ?_⟩
      intro fd b bound listed
      have entry := Table.mem_of_find? bound
      simp only [T, List.mem_cons, Prod.mk.injEq, List.not_mem_nil, or_false] at entry
      rcases entry with ⟨rfl, rfl⟩ | ⟨rfl, rfl⟩ | ⟨rfl, rfl⟩ | ⟨rfl, rfl⟩ | ⟨rfl, rfl⟩
      · decide
      · decide
      · decide
      · decide
      · exact absurd listed (by decide)
    have asks : (pipedChild ⟨0, 1, 3, 4⟩ plan).Asks [.reply (.close 1) (.ok ()),
        .reply (.close 3) (.ok ()), .reply (.setCloexec 0 false) (.ok ()),
        .reply (.duplicateOnto 4 1) (.ok 1), .reply (.duplicateOnto 1 2) (.ok 2),
        .reply (.setDisposition 13 .default) (.ok .ignored)] (.execute [0x73] [] []) :=
      .call (.call (.call (.call (.call (.call .here)))))
    exact ⟨T, plan, _, made, asks,
      ((children_wired (by unfold Table.Distinct; decide) plan).1 _ _ made).wired _ _ _ _ asks⟩
  · let T : Table Nat := [(1, ⟨1, true⟩), (0, ⟨0, true⟩), (7, ⟨9, false⟩)]
    have made : TerminalPair.OpenIn ⟨1, 0, "/dev/pts/3"⟩ T 1 0 := by
      refine ⟨by decide, by decide, rfl, rfl, ?_⟩
      intro fd b bound listed
      have entry := Table.mem_of_find? bound
      simp only [T, List.mem_cons, Prod.mk.injEq, List.not_mem_nil, or_false] at entry
      rcases entry with ⟨rfl, rfl⟩ | ⟨rfl, rfl⟩ | ⟨rfl, rfl⟩
      · exact .inl rfl
      · exact .inr rfl
      · exact absurd listed (by decide)
    have asks : (attachedChild ⟨1, 0, "/dev/pts/3"⟩ plan).Asks [.reply (.close 1) (.ok ()),
        .reply .newSession (.ok ()), .reply (.controlTerminal 0) (.ok ()),
        .reply (.setCloexec 0 false) (.ok ()), .reply (.duplicateOnto 0 1) (.ok 1),
        .reply (.duplicateOnto 0 2) (.ok 2),
        .reply (.setDisposition 13 .default) (.ok .ignored)] (.execute [0x73] [] []) :=
      .call (.call (.call (.call (.call (.call (.call .here))))))
    exact ⟨T, plan, _, made, asks,
      ((children_wired (by unfold Table.Distinct; decide) plan).2 _ _ _ made).wired _ _ _ _ asks⟩

end Coprocess
