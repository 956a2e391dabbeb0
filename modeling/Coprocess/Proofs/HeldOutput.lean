import Coprocess.Proofs.Endings
import Coprocess.Proofs.Logged

/-!
# Output that is held to the end

The command line hands on what it reads from a coprocess, and ends with the exit code of that unless
something fails.  Output that follows the last line end is only held while the coprocess runs; it is
written when the process ends, and a failure is not reported then.

What is read is followed through the copying (`copied_of_copy`), through the relay
(`copied_of_relay`) and through the end of the process.  The main statement, `main_reports`, says
what may be missing of the output of a coprocess whose exit code the process ends with: a rest
without a line end that fits into the buffer, or any rest if the reader has gone away.  In all other
cases the process complains or panics.
-/

namespace Coprocess

open Host Program

variable {t t₁ t₂ : List Exchange}

/-! ### What is read -/

/-- The bytes that an exchange brings in. -/
def Host.Exchange.received : Exchange → Bytes
  | .reply (.read _ _) (.ok data) => data
  | _ => []

/-- The bytes that the exchanges of a trace bring in. -/
def received (t : List Exchange) : Bytes := t.flatMap Exchange.received

@[simp] theorem received_nil : received [] = [] := rfl

@[simp] theorem received_append (t₁ t₂ : List Exchange) :
    received (t₁ ++ t₂) = received t₁ ++ received t₂ := List.flatMap_append

/-- If no request of a program has bytes of a kind, none of its runs has. -/
theorem flatMap_eq_nil_of_only {α : Type} {f : Exchange → Bytes} {p : Program α} {a : α}
    (run : p.Yields t a) (only : p.Only fun c => ∀ r, f (.reply c r) = []) : t.flatMap f = [] := by
  refine List.flatMap_eq_nil_iff.2 fun x hx => ?_
  obtain ⟨c, r, rfl, none⟩ := run.forall_of_only only x hx
  exact none r

/-- A request that brings nothing in and hands nothing over, whatever the answer. -/
def Host.Call.Silent (c : Call) : Prop :=
  ∀ r, (Exchange.reply c r).accepted = [] ∧ (Exchange.reply c r).received = []

/-- Nothing is brought in and nothing is handed over. -/
def Silent (t : List Exchange) : Prop := accepted t = [] ∧ received t = []

theorem Silent.append (first : Silent t₁) (second : Silent t₂) : Silent (t₁ ++ t₂) :=
  ⟨by rw [accepted_append, first.1, second.1, List.append_nil],
    by rw [received_append, first.2, second.2, List.append_nil]⟩

theorem silent_of_requests (requests : ∀ x ∈ t, ∃ c r, x = .reply c r ∧ c.Silent) : Silent t := by
  have each (x : Exchange) (hx : x ∈ t) : x.accepted = [] ∧ x.received = [] := by
    obtain ⟨c, r, rfl, silent⟩ := requests x hx
    exact silent r
  exact ⟨List.flatMap_eq_nil_iff.2 fun x hx => (each x hx).1,
    List.flatMap_eq_nil_iff.2 fun x hx => (each x hx).2⟩

namespace FrontEnd

/-! ### Copying -/

/-- What a handle reads, it brings in. -/
theorem received_of_read {h : Handle} {count : Nat} {r : Except SystemError Bytes}
    (run : (h.read count).Yields t r) :
    (∃ data, r = .ok data ∧ received t = data) ∨
    ∃ reason, r = .error reason ∧ received t = [] ∧ Blames t (.error reason) := by
  rw [Handle.read] at run
  split at run
  · obtain ⟨rfl, rfl⟩ := yields_done_iff.1 run
    refine .inr ⟨_, rfl, rfl, ?_⟩
    rintro ⟨⟩
  · obtain ⟨answer, t', rfl, rest⟩ := yields_call_iff.1 run
    cases answer with
    | ok data =>
      obtain ⟨rfl, rfl⟩ := yields_done_iff.1 rest
      exact .inl ⟨data, rfl, by simp [received, Exchange.received]⟩
    | error reason =>
      rw [done_bind] at rest
      dsimp only at rest
      split at rest
      · -- The end of a terminal is reported as an error.
        obtain ⟨rfl, rfl⟩ := yields_done_iff.1 rest
        exact .inl ⟨[], rfl, rfl⟩
      · obtain ⟨rfl, rfl⟩ := yields_done_iff.1 rest
        refine .inr ⟨_, rfl, rfl, ?_⟩
        rintro ⟨⟩
        exact ⟨_, List.mem_cons_self, rfl⟩

/-- What is held is clean: it holds no line end and fits into the buffer. -/
def LineBuffer.Clean (b : LineBuffer) : Prop := 10 ∉ b.held ∧ b.held.length ≤ capacity

theorem LineBuffer.received_of_put {b : LineBuffer} {data : Bytes}
    {r : Except SystemError Unit × LineBuffer} (run : (b.put data).Yields t r) : received t = [] :=
  flatMap_eq_nil_of_only run (put_only (fun _ _ => rfl) b data)

/-- How far the bytes that are brought in get: with those that were held before they are accepted,
held or lost, in this order. -/
structure Copied (b : LineBuffer) (t : List Exchange) (r : Except SystemError Unit)
    (b' : LineBuffer) : Prop where
  kept : Kept (b.held ++ received t) t r b'.held
  blames : Blames t r
  clean : r = .ok () → b.Clean → b'.Clean

/-- What a round does, whether it is the last or not. -/
theorem copied_of_round {h : Handle} {b : LineBuffer}
    {next : LineBuffer ⊕ (Except SystemError Unit × LineBuffer)}
    (run : (Transfer.copyRound h.read LineBuffer.put b).Yields t next) :
    ∃ r b', Copied b t r b' ∧ (next = .inl b' ∧ r = .ok () ∨ next = .inr (r, b')) := by
  obtain ⟨t₁, read, t₂, rfl, reads, rest⟩ := yields_bind_iff.1 run
  have untouched : accepted t₁ = [] :=
    flatMap_eq_nil_of_only reads (h.read_only (fun _ _ _ => rfl) _)
  -- Nothing has been done about what was read when the round ends here.
  have idle (r : Except SystemError Unit) (nothing : received t₁ = []) (blames : Blames t₁ r) :
      Copied b (t₁ ++ []) r b := by
    rw [List.append_nil]
    exact ⟨⟨[], by simp [nothing, untouched], fun _ => rfl⟩, blames, fun _ clean => clean⟩
  rcases received_of_read reads with ⟨data, rfl, brought⟩ | ⟨reason, rfl, nothing, blames⟩
  · cases data with
    | nil =>
      obtain ⟨rfl, rfl⟩ := yields_done_iff.1 rest
      exact ⟨_, _, idle (.ok ()) brought nofun, .inr rfl⟩
    | cons first others =>
      obtain ⟨t₂, ⟨r, b'⟩, t₃, rfl, puts, last⟩ := yields_bind_iff.1 rest
      obtain ⟨⟨lost, parts, whole⟩, blames, clean⟩ := LineBuffer.kept_of_put puts
      have copied : Copied b (t₁ ++ (t₂ ++ [])) r b' := by
        rw [List.append_nil]
        refine ⟨⟨lost, ?_, whole⟩, blames.append_left t₁, fun ok before => clean ok before.1⟩
        rw [received_append, brought, LineBuffer.received_of_put puts, List.append_nil, parts,
          accepted_append, untouched, List.nil_append]
      cases r with
      | ok =>
        obtain ⟨rfl, rfl⟩ := yields_done_iff.1 last
        exact ⟨_, _, copied, .inl ⟨rfl, rfl⟩⟩
      | error reason =>
        obtain ⟨rfl, rfl⟩ := yields_done_iff.1 last
        exact ⟨_, _, copied, .inr rfl⟩
  · dsimp only at rest
    split at rest
    · obtain ⟨rfl, rfl⟩ := yields_done_iff.1 rest
      exact ⟨_, _, idle (.ok ()) nothing nofun, .inl ⟨rfl, rfl⟩⟩
    · obtain ⟨rfl, rfl⟩ := yields_done_iff.1 rest
      exact ⟨_, _, idle _ nothing blames, .inr rfl⟩

/-- **Copying** keeps what it reads, however it is cut into pieces. -/
theorem copied_of_copy {h : Handle} {b b' : LineBuffer} {r : Except SystemError Unit}
    (run : (Transfer.copy h.read LineBuffer.put b).Yields t (r, b')) : Copied b t r b' := by
  rw [Transfer.copy_eq_iterate] at run
  refine run.iterate_induction (P := fun b t result => Copied b t result.1 result.2) ?_ ?_
  · intro b t result round
    obtain ⟨r, b', copied, ⟨⟨⟩, -⟩ | ⟨⟨⟩⟩⟩ := copied_of_round round
    exact copied
  · intro b b₁ t₁ t₂ result round rest
    obtain ⟨r, b', copied, ⟨⟨⟩, rfl⟩ | ⟨⟨⟩⟩⟩ := copied_of_round round
    have parts : b.held ++ received (t₁ ++ t₂) = (b.held ++ received t₁) ++ received t₂ := by
      rw [received_append, List.append_assoc]
    refine ⟨?_, rest.blames.append_left t₁, fun ok before => ?_⟩
    · rw [parts]
      exact copied.kept.trans rest.kept
    · exact rest.clean ok (copied.clean rfl before)

/-! ### Relaying -/

/-- Silence before and after copying makes no difference. -/
theorem Copied.around {b b' : LineBuffer} {r : Except SystemError Unit}
    {before after : List Exchange}
    (copied : Copied b t r b') (quiet : Silent before) (quiet' : Silent after) :
    Copied b (before ++ t ++ after) r b' := by
  obtain ⟨⟨lost, parts, whole⟩, blames, clean⟩ := copied
  have same : accepted (before ++ t ++ after) = accepted t ∧
      received (before ++ t ++ after) = received t := by
    simp [quiet.1, quiet.2, quiet'.1, quiet'.2]
  refine ⟨⟨lost, ?_, whole⟩, (blames.append_left before).append_right after, clean⟩
  rw [same.1, same.2, parts]

/-- What is done aside is no input and no output: diagnostics are none. -/
theorem silent_of_isAside {c : Call} (aside : c.IsAside) : c.Silent := by
  intro r
  unfold Call.IsAside at aside
  split at aside
  · exact ⟨rfl, rfl⟩
  · exact ⟨rfl, rfl⟩
  · exact ⟨rfl, rfl⟩
  · subst aside
    cases r <;> simp [Exchange.accepted, Exchange.received, standardError, standardOutput]
  · cases aside

theorem silent_of_aside (aside : Aside t) : Silent t := by
  refine silent_of_requests fun x hx => ?_
  obtain ⟨c, r, same, isAside⟩ := aside x hx
  exact ⟨c, r, same, silent_of_isAside isAside⟩

/-- What a relay answers that knows how the coprocess ended. -/
theorem copied_of_outcome {copied : Except SystemError Unit} {closed : Except Failure Status}
    {s : Status} (answered : outcome copied closed = .ok s) :
    copied = .ok () ∨ copied = .error (.os .EPIPE) := by
  unfold outcome at answered
  split at answered
  · cases answered
  · exact .inl rfl
  · split at answered
    next broken => exact .inr (congrArg _ (by simpa using broken))
    · cases answered

/-- **Relaying** keeps what it reads, and answers how the coprocess ended only if the copying
succeeded or the other side is gone. -/
theorem copied_of_relay {h : Handle} {result : Option (Except RelayError Status)}
    {buffer : LineBuffer} (run : (relay h).Yields t (result, buffer)) :
    ∃ copied, Copied {} t copied buffer ∧
      ∀ s, result = some (.ok s) → copied = .ok () ∨ copied = .error (.os .EPIPE) := by
  have nothing : Copied {} [] (.ok ()) {} :=
    ⟨⟨[], rfl, fun _ => rfl⟩, nofun, fun _ clean => clean⟩
  cases yields_relay_iff.1 run with
  | refused cloned dropped =>
    refine ⟨.ok (), ?_, nofun⟩
    simpa using nothing.around (silent_of_aside (Handle.aside_of_cloneInput cloned))
      (silent_of_aside dropped.aside)
  | @panicked input h₁ _ reason closed _ _ _ _ cloned inputClosed notes dropped =>
    refine ⟨.ok (), ?_, nofun⟩
    have cloning := silent_of_aside (Handle.aside_of_cloneInput cloned)
    have ending := silent_of_aside (Handle.aside_of_closeInput inputClosed)
    have noting := silent_of_aside (aside_of_panicNote notes)
    have alone : Silent [.spawn (forward input h₁.transport.isTerminal) (.error reason),
        .reply (.close input) closed] := ⟨rfl, rfl⟩
    have whole := nothing.around (cloning.append ending)
      (alone.append (noting.append (silent_of_aside dropped.aside)))
    simpa using whole
  | @finished input h₁ _ _ copied closed _ _ _ _ _ _ cloned inputClosed copies closes dropped =>
    refine ⟨copied, ?_, fun s same => copied_of_outcome (Option.some.inj same)⟩
    have cloning := silent_of_aside (Handle.aside_of_cloneInput cloned)
    have ending := silent_of_aside (Handle.aside_of_closeInput inputClosed)
    have closing := silent_of_requests (closes.forall_of_only (h₁.close_only
      (fun _ _ => ⟨rfl, rfl⟩) (fun _ _ => ⟨rfl, rfl⟩) (fun _ _ => ⟨rfl, rfl⟩)
      fun _ _ _ => ⟨rfl, rfl⟩))
    have note : Silent (doneNote closed) := by
      cases closed <;> exact ⟨rfl, rfl⟩
    have spawned : Silent [.spawn (forward input h₁.transport.isTerminal) (.ok ())] := ⟨rfl, rfl⟩
    have whole := (copied_of_copy copies).around ((cloning.append ending).append spawned)
      ((closing.append note).append (silent_of_aside dropped.aside))
    simpa only [List.append_assoc, List.cons_append, List.nil_append] using whole

/-! ### The end of the process -/

/-- What becomes of the output that is brought in by `t`, a rest of which is written by `t'` when
the process ends. -/
structure HandedOn (t t' : List Exchange) : Prop where
  /-- Nothing is handed over twice, or out of order. -/
  ordered : accepted (t ++ t') <+: received t
  /-- Unless the other side is gone, what is missing is a rest without a line end that fits into the
  buffer. -/
  missing : (∀ x ∈ t, ¬ x.IsBrokenPipe) → ∃ lost, received t = accepted (t ++ t') ++ lost ∧
    10 ∉ lost ∧ lost.length ≤ LineBuffer.capacity

/-- What a relay that knows how the coprocess ended has read and not yet written is tried once
more. -/
theorem handedOn_of_relay {h : Handle} {s : Status} {b : LineBuffer} {u : Unit}
    (relays : (relay h).Yields t₁ (some (.ok s), b)) (finishes : b.finish.Yields t₂ u) :
    HandedOn t₁ t₂ := by
  obtain ⟨copied, ⟨⟨lost, parts, whole⟩, blames, clean⟩, answered⟩ := copied_of_relay relays
  obtain ⟨t₂, ⟨_, b'⟩, _, rfl, flushes, last⟩ := yields_bind_iff.1 finishes
  obtain ⟨rfl, -⟩ := yields_done_iff.1 last
  have held := (LineBuffer.held_of_flush flushes).1
  rw [List.append_nil]
  -- The buffer is empty at first, and what is in it in the end is written up to a rest.
  have all : received t₁ = accepted (t₁ ++ t₂) ++ (b'.held ++ lost) := by
    calc received t₁ = accepted t₁ ++ b.held ++ lost := parts
      _ = accepted (t₁ ++ t₂) ++ (b'.held ++ lost) := by
        rw [held, accepted_append]
        simp only [List.append_assoc]
  refine ⟨⟨_, all.symm⟩, fun unbroken => ?_⟩
  have ok : copied = .ok () := by
    rcases answered s rfl with ok | broken
    · exact ok
    · obtain ⟨x, hx, gone⟩ := blames broken
      exact absurd gone (unbroken x hx)
  obtain ⟨noLineEnd, fits⟩ := clean ok ⟨List.not_mem_nil, Nat.zero_le _⟩
  rw [held] at noLineEnd fits
  refine ⟨b'.held, ?_, ?_, ?_⟩
  · rw [all, whole ok, List.append_nil]
  · exact fun listed => noLineEnd (List.mem_append_right _ listed)
  · rw [List.length_append] at fits
    omega

/-- What a run comes to that has complained, was refused a thread, or has relayed a coprocess and
knows how that ended. -/
inductive ComesTo (t : List Exchange) (b : LineBuffer) : Option (Except Complaint Int) → Prop
  | complained {c : Complaint} : ComesTo t b (some (.error c))
  | panicked : RefusesThread t → ComesTo t b none
  | relayed {h : Handle} {s : Status} {t₁ : List Exchange} :
      (relay h).Yields t₁ (some (.ok s), b) → Within t₁ t → ComesTo t b (some (.ok s.shellCode))

variable {b : LineBuffer} {result : Option (Except Complaint Int)}

/-- It stays that in all that passes around the run. -/
theorem ComesTo.mono {t' : List Exchange} (comes : ComesTo t b result) (within : Within t t')
    (refuses : RefusesThread t → RefusesThread t') : ComesTo t' b result := by
  cases comes with
  | complained => exact .complained
  | panicked refused => exact .panicked (refuses refused)
  | relayed relays inner => exact .relayed relays (inner.trans within)

theorem ComesTo.append_left (t₁ : List Exchange) (comes : ComesTo t b result) :
    ComesTo (t₁ ++ t) b result :=
  comes.mono ((Within.refl t).append_left t₁) fun refuses => refuses.append_left t₁

/-- A relay has no result only if it was refused its thread. -/
theorem refusesThread_of_relay {h : Handle} (run : (relay h).Yields t (none, b)) :
    RefusesThread t := by
  cases yields_relay_iff.1 run with
  | panicked => exact ⟨_, _, List.mem_append_right _ List.mem_cons_self⟩

theorem comesTo_of_serve {i : Invocation} {exec : ExecSettings} {block : List Bytes}
    (run : (serve i exec block).Yields t (result, b)) : ComesTo t b result := by
  rw [serve] at run
  split at run
  · obtain ⟨-, ⟨⟩⟩ := yields_done_iff.1 run
    exact .complained
  · obtain ⟨t₁, opened, t₂, rfl, -, rest⟩ := yields_bind_iff.1 run
    rcases opened with reason | h
    · obtain ⟨-, ⟨⟩⟩ := yields_done_iff.1 rest
      exact .complained
    · obtain ⟨t₂, ⟨relayed, b'⟩, t₃, rfl, relays, last⟩ := yields_bind_iff.1 rest
      obtain ⟨rfl, ⟨⟩⟩ := yields_done_iff.1 last
      rw [List.append_nil]
      refine ComesTo.append_left t₁ ?_
      rcases relayed with _ | reason | s
      · exact .panicked (refusesThread_of_relay relays)
      · exact .complained
      · exact .relayed relays (.refl t₂)

/-- The same for all stages of a run. -/
theorem comesTo_of_run {i : Invocation} {block : List Bytes} {log : Logging}
    (run : (FrontEnd.run i block).Yields t ((result, b), log)) : ComesTo t b result := by
  obtain ⟨t₁, settings, t₂, rfl, -, rest⟩ := yields_bind_iff.1 run
  rcases settings with reason | settings
  · obtain ⟨-, ⟨⟩⟩ := yields_done_iff.1 rest
    exact .complained
  · obtain ⟨t₂, started, t₃, rfl, -, rest⟩ := yields_bind_iff.1 rest
    rcases started with reason | log
    · obtain ⟨-, ⟨⟩⟩ := yields_done_iff.1 rest
      exact .complained
    · obtain ⟨t₃, served, _, rfl, logged, last⟩ := yields_bind_iff.1 rest
      obtain ⟨rfl, ⟨⟩⟩ := yields_done_iff.1 last
      obtain ⟨t', alone, logs⟩ := logs_of_yields_loggedBy logged
      obtain ⟨t₄, _, t₅, rfl, -, serves⟩ := yields_bind_iff.1 alone
      rw [List.append_nil]
      have comes := (comesTo_of_serve serves).append_left t₄
      exact ((comes.mono logs.within logs.refusesThread).append_left t₂).append_left t₁

/-- What the exit code of the command line tells, by what has passed. -/
inductive Reports (block : List Bytes) (t : List Exchange) : Nat → Prop
  /-- There was a complaint; the code is another than that of a complaint only if it could not be
  written. -/
  | complained {c : Complaint} {showing : List Exchange} {code : Nat} :
      Complained block c showing code → showing <:+: t → Reports block t code
  | panicked : RefusesThread t → Reports block t panicCode
  /-- A coprocess was relayed, and the code is that of the coprocess. -/
  | relayed {h : Handle} {s : Status} {b : LineBuffer} {t₁ t₂ : List Exchange} :
      (relay h).Yields t₁ (some (.ok s), b) → b.finish.Yields t₂ () → Within (t₁ ++ t₂) t →
      HandedOn t₁ t₂ → Reports block t (visibleCode s.shellCode)

/-- **What an exit code says about the output.**  The command line has complained, or it was refused
a thread, or it has relayed a coprocess and ends with the code of that; and of the output nothing is
missing then but what it held to the end. -/
theorem main_reports {argv block : List Bytes} {i : Invocation} {code : Nat}
    (parsed : CommandLine.parse (argv.drop 1) = .ok i) (run : (main argv block).Yields t code) :
    Reports block t code := by
  obtain ⟨before, t', rfl, rest⟩ := yields_call_iff.1 run
  rw [done_bind, parsed] at rest
  obtain ⟨t₁, ⟨⟨⟨result, b⟩, log⟩, _⟩, t₂, rfl, ran, ends⟩ := yields_bind_iff.1 rest
  obtain ⟨t₂, _, t₃, rfl, concludes, ends⟩ := yields_bind_iff.1 ends
  obtain ⟨t₃, _, _, rfl, finishes, last⟩ := yields_bind_iff.1 ends
  obtain ⟨rfl, rfl⟩ := yields_done_iff.1 last
  obtain ⟨t₀, alone, serves⟩ := exists_of_yields_allocatedBy ran
  rw [List.append_nil]
  cases (comesTo_of_run alone).mono serves.within serves.refusesThread with
  | complained =>
    obtain ⟨showing, complained, t₄, rfl⟩ := exists_complained_of_endRun concludes
    exact .complained complained ⟨.reply _ before :: (t₁ ++ t₄), t₃, by simp⟩
  | panicked refuses =>
    rw [eq_of_endRun_none concludes]
    exact .panicked ((refuses.append_right _).append_left [_])
  | relayed relays within =>
    rw [eq_of_endRun_ok concludes]
    have whole := within.append ((Within.refl t₃).append_left t₂)
    exact .relayed relays finishes (whole.append_left [_]) (handedOn_of_relay relays finishes)

/-- The arguments of a run without a log, of a command whose output has no line end. -/
def quietArguments : List Bytes :=
  [Bytes.ofText "coproc", Bytes.ofText "--log-level", Bytes.ofText "off", Bytes.ofText "printf abc"]

theorem parse_quietArguments : CommandLine.parse (quietArguments.drop 1) =
    .ok { command := "printf abc", level := some .off } := by
  decide +kernel

/-- What passes between a relay and a host on which a coprocess writes three bytes and exits. -/
def shortRelay : List Exchange := [
  .reply (.duplicate 4 3 true) (.ok 7), .reply (.close 4) (.ok ()),
  .spawn (forward 7 false) (.ok ()),
  .reply (.read 5 8192) (.ok [97, 98, 99]), .reply (.read 5 8192) (.ok []),
  .reply (.close 5) (.ok ()), .reply (.log (.descriptorsClosed 9)) (),
  .reply (.wait (some 9) true) (.ok (9, .exited 0)), .reply (.log (.waited 9 (.exited 0))) (),
  .reply (.log (.commandLineDone (.exited 0))) ()]

/-- A write that fails since there is no room. -/
def fullWrite : List Exchange := [.reply (.write 1 [97, 98, 99]) (.error .ENOSPC)]

theorem yields_shortRelay : (relay ⟨9, .pipes (.holding 4) (.holding 5), none⟩).Yields shortRelay
    (some (.ok (.exited 0)), ⟨[97, 98, 99]⟩) := by
  suffices run : ∃ t, (relay ⟨9, .pipes (.holding 4) (.holding 5), none⟩).Yields t
      (some (.ok (.exited 0)), ⟨[97, 98, 99]⟩) ∧ t = shortRelay by
    obtain ⟨t, run, rfl⟩ := run
    exact run
  apply Exists.intro
  apply And.intro
  · apply Yields.call (r := Except.ok 7)
    apply Yields.call (r := Except.ok ())
    apply Yields.spawn (r := .ok ())
    apply Yields.again
    · apply Yields.call (r := Except.ok [97, 98, 99])
      exact .done _
    apply Yields.stop
    · apply Yields.call (r := Except.ok [])
      exact .done _
    apply Yields.call (r := Except.ok ())
    apply Yields.call (r := ())
    apply Yields.stop
    · apply Yields.call (r := Except.ok (9, .exited 0))
      exact .done _
    apply Yields.call (r := ())
    apply Yields.call (r := ())
    exact .done _
  · rfl

theorem yields_fullWrite : (LineBuffer.finish ⟨[97, 98, 99]⟩).Yields fullWrite () := by
  suffices run : ∃ t, (LineBuffer.finish ⟨[97, 98, 99]⟩).Yields t () ∧ t = fullWrite by
    obtain ⟨t, run, rfl⟩ := run
    exact run
  apply Exists.intro
  apply And.intro
  · apply Yields.stop
    · apply Yields.call (r := Except.error .ENOSPC)
      exact .done _
    exact .done _
  · rfl

/-- A run whose host has no room for the output ends with the exit code of the coprocess. -/
theorem exists_main : ∃ t, (main quietArguments []).Yields t 0 ∧
    Within (shortRelay ++ fullWrite) t := by
  rw [main, parse_quietArguments]
  apply Exists.intro
  apply And.intro
  · apply Yields.call (r := Except.ok .default)
    apply Yields.call (r := some (Bytes.ofText "/root"))
    apply Yields.stop
    · apply Yields.call (r := Except.error .ENOENT)
      exact .done _
    apply Yields.call (r := false)
    apply Yields.call (r := Except.ok none)
    apply Yields.call (r := Except.ok (3, 4))
    apply Yields.call (r := Except.ok (5, 6))
    apply Yields.fork (r := .ok 9)
    apply Yields.call (r := Except.ok ())
    apply Yields.call (r := Except.ok ())
    apply Yields.call (r := Except.ok 7)
    apply Yields.call (r := Except.ok ())
    apply Yields.spawn (r := .ok ())
    apply Yields.again
    · apply Yields.call (r := Except.ok [97, 98, 99])
      exact .done _
    apply Yields.stop
    · apply Yields.call (r := Except.ok [])
      exact .done _
    apply Yields.call (r := Except.ok ())
    apply Yields.stop
    · apply Yields.call (r := Except.ok (9, .exited 0))
      exact .done _
    apply Yields.stop
    · apply Yields.call (r := Except.error .ENOSPC)
      exact .done _
    exact .done _
  · apply Within.append_left [_, _, _, _, _, _, _, _, _, _]
    apply Within.cons
    apply Within.cons
    apply Within.skip rfl
    apply Within.append_left [_]
    apply Within.cons
    apply Within.cons
    apply Within.cons
    apply Within.skip rfl
    apply Within.cons
    apply Within.skip rfl
    apply Within.skip rfl
    apply Within.cons
    exact .nil []

/-- A run whose output is lost: the rest is as the general statement says. -/
theorem main_reports_of_full_output : ∃ t, (main quietArguments []).Yields t 0 ∧
    Reports [] t 0 := by
  obtain ⟨t, run, -⟩ := exists_main
  exact ⟨t, run, main_reports parse_quietArguments run⟩

/-- Output that is lost is not always reported: of three bytes none is taken, no reader has gone
away, and the command line ends without a complaint. -/
theorem not_forall_loss_reported :
    ¬ ∀ (argv block : List Bytes) (t t₁ t₂ : List Exchange) (code : Nat) (h : Handle) (s : Status)
      (b : LineBuffer), (main argv block).Yields t code → (relay h).Yields t₁ (some (.ok s), b) →
      b.finish.Yields t₂ () → Within (t₁ ++ t₂) t → (∀ x ∈ t₁ ++ t₂, ¬ x.IsBrokenPipe) →
      accepted (t₁ ++ t₂) ≠ received t₁ → code = 1 := by
  intro reported
  obtain ⟨t, run, within⟩ := exists_main
  have unbroken : ∀ x ∈ shortRelay ++ fullWrite, ¬ x.IsBrokenPipe := by
    simp [shortRelay, fullWrite, Exchange.IsBrokenPipe, Errno.ENOSPC, Errno.EPIPE]
  have lost : accepted (shortRelay ++ fullWrite) ≠ received shortRelay := by decide
  cases reported _ _ _ _ _ _ _ _ _ run yields_shortRelay yields_fullWrite within unbroken lost

end FrontEnd

end Coprocess
