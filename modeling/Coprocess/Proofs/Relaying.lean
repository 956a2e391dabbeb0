import Coprocess.FrontEnd.Relay
import Coprocess.Proofs.Buffering
import Coprocess.Proofs.Operations

/-!
# Relaying

What passes between a relay and its host.  A relay whose input cannot be duplicated gives the handle
up (`Dropping`), and so does one that is refused its thread, which panics; else it copies, closes
and gives up what is left of the handle.  `Relayed` has one constructor for each way, and what is
requested around the copying and the close is `Aside`.

The main statement is `yields_relay_iff`.
-/

namespace Coprocess

open Host Program

variable {t : List Exchange}

/-! ### Giving a handle up -/

/-- The exchanges by which a transport that is given up is closed.  No slave is released. -/
def Transport.Dropping : Transport → List Exchange → Prop
  | pipes input output, t => ∃ t₁ t₂, t = t₁ ++ t₂ ∧ input.Closing t₁ ∧ output.Closing t₂
  | terminal master _, t => master.Closing t

namespace Handle

/-- What is said of a handle that is given up. -/
def droppedNote (h : Handle) : List Exchange :=
  if h.status.isNone then [.reply (.log (.droppedUnreaped h.pid)) ()] else []

/-- The exchanges by which a handle is given up. -/
def Dropping (h : Handle) (t : List Exchange) : Prop :=
  ∃ t', t = h.droppedNote ++ t' ∧ h.transport.Dropping t'

/-- The second half of giving a handle up. -/
def dropTransport (T : Transport) : Program Unit :=
  match T with
  | .pipes input output => do
    let _ ← input.close
    let _ ← output.close
  | .terminal master _ => do
    let _ ← master.close

theorem drop_eq (h : Handle) :
    h.drop = (if h.status.isNone then tell (.droppedUnreaped h.pid) else .done ()).bind fun _ =>
      dropTransport h.transport := by
  rcases h with ⟨pid, T, _ | status⟩
  · rfl
  · rfl

theorem yields_dropTransport_iff {T : Transport} {u : Unit} :
    (dropTransport T).Yields t u ↔ T.Dropping t := by
  cases T with
  | pipes input output =>
    simp only [dropTransport, bind_eq, pure_eq, yields_bind_iff, Prod.exists,
      Slot.yields_close_iff, yields_done_iff, Transport.Dropping]
    constructor
    · rintro ⟨t₁, _, _, _, rfl, ⟨h₁, -⟩, t₂, _, _, _, rfl, ⟨h₂, -⟩, rfl, -⟩
      exact ⟨t₁, t₂, by rw [List.append_nil], h₁, h₂⟩
    · rintro ⟨t₁, t₂, rfl, h₁, h₂⟩
      exact ⟨t₁, _, _, t₂, rfl, ⟨h₁, rfl, rfl⟩, t₂, _, _, [], (List.append_nil _).symm,
        ⟨h₂, rfl, rfl⟩, rfl, trivial⟩
  | terminal master slaveName =>
    simp only [dropTransport, bind_eq, pure_eq, yields_bind_iff, Prod.exists,
      Slot.yields_close_iff, yields_done_iff, Transport.Dropping]
    constructor
    · rintro ⟨t₁, _, _, _, rfl, ⟨h₁, -⟩, rfl, -⟩
      rw [List.append_nil]
      exact h₁
    · intro h₁
      exact ⟨t, _, _, [], (List.append_nil _).symm, ⟨h₁, rfl, rfl⟩, rfl, trivial⟩

/-- **Giving a handle up** closes what is still open, and nothing else. -/
theorem yields_drop_iff {h : Handle} {u : Unit} : h.drop.Yields t u ↔ h.Dropping t := by
  rw [drop_eq, yields_bind_iff, Dropping, droppedNote]
  split
  · constructor
    · rintro ⟨t₁, _, t₂, rfl, told, dropped⟩
      exact ⟨t₂, by rw [yields_request_iff.1 told], yields_dropTransport_iff.1 dropped⟩
    · rintro ⟨t₂, rfl, dropped⟩
      exact ⟨_, (), t₂, rfl, yields_request_iff.2 rfl, yields_dropTransport_iff.2 dropped⟩
  · constructor
    · rintro ⟨_, _, t₂, rfl, silent, dropped⟩
      obtain ⟨rfl, -⟩ := yields_done_iff.1 silent
      exact ⟨t₂, rfl, yields_dropTransport_iff.1 dropped⟩
    · rintro ⟨_, rfl, dropped⟩
      exact ⟨[], (), _, rfl, .done _, yields_dropTransport_iff.2 dropped⟩

end Handle

/-! ### What the parts of a relay ask for -/

theorem Handle.reap_only {P : Call → Prop} (h : Handle) (ofLog : ∀ e, P (.log e))
    (ofWait : ∀ child block, P (.wait child block)) : h.reap.Only P := by
  rw [reap]
  split
  · exact trivial
  · refine Only.bind ?_ fun result => ?_
    · rw [awaitStatus_eq]
      refine ⟨fun _ => ⟨ofWait _ _, fun answer => ?_⟩, fun _ => trivial⟩
      dsimp only
      cases verdict answer <;> exact trivial
    · split
      · exact trivial
      · exact ⟨ofLog _, fun _ => trivial⟩

theorem Handle.close_only {P : Call → Prop} (h : Handle) (ofClose : ∀ fd, P (.close fd))
    (ofRelease : ∀ slaveName, P (.releaseTerminal slaveName)) (ofLog : ∀ e, P (.log e))
    (ofWait : ∀ child block, P (.wait child block)) : h.close.Only P := by
  rw [close_eq]
  exact (closeTransport_only _ ofClose ofRelease ofLog).bind fun T =>
    ⟨ofLog _, fun _ => reap_only _ ofLog ofWait⟩

theorem Handle.dropTransport_only {P : Call → Prop} (T : Transport)
    (ofClose : ∀ fd, P (.close fd)) : (dropTransport T).Only P := by
  unfold dropTransport
  split
  · exact (Slot.close_only _ ofClose).bind fun _ =>
      (Slot.close_only _ ofClose).bind fun _ => trivial
  · exact (Slot.close_only _ ofClose).bind fun _ => trivial

theorem Handle.drop_only {P : Call → Prop} (h : Handle) (ofClose : ∀ fd, P (.close fd))
    (ofLog : P (.log (.droppedUnreaped h.pid))) : h.drop.Only P := by
  rw [drop_eq]
  refine Only.bind ?_ fun _ => dropTransport_only _ ofClose
  split
  · exact ⟨ofLog, fun _ => trivial⟩
  · exact trivial

namespace Transfer

/-! ### Round by round -/

variable {σ : Type} {P : Call → Prop} {write : Bytes → Program (Except SystemError Nat)}
  {read : Nat → Program (Except SystemError Bytes)}
  {put : σ → Bytes → Program (Except SystemError Unit × σ)}

/-- One attempt to write some data: what is left of it, or how writing ends. -/
def writeRound (write : Bytes → Program (Except SystemError Nat)) (data : Bytes) :
    Program (Bytes ⊕ Except SystemError Unit) :=
  match data with
  | [] => .done (.inr (.ok ()))
  | data => (write data).bind fun
    | .ok 0 => .done (.inr (.error .nothingWritten))
    | .ok n => .done (.inl (data.drop n))
    | .error reason =>
      if reason == .os .EINTR then .done (.inl data) else .done (.inr (.error reason))

theorem writeAll_eq_iterate (write : Bytes → Program (Except SystemError Nat)) (data : Bytes) :
    writeAll write data = .iterate data (writeRound write) := by
  rfl

theorem writeAll_only (ofWrite : ∀ data, (write data).Only P) (data : Bytes) :
    (writeAll write data).Only P := by
  rw [writeAll_eq_iterate]
  refine ⟨fun data => ?_, fun _ => trivial⟩
  unfold writeRound
  split
  · exact trivial
  · refine (ofWrite _).bind fun r => ?_
    split
    · exact trivial
    · exact trivial
    · split <;> exact trivial

theorem readAll_only (ofRead : ∀ count, (read count).Only P) : (readAll read).Only P := by
  refine ⟨fun chunks => (ofRead _).bind fun r => ?_, fun _ => trivial⟩
  split
  · exact trivial
  · exact trivial
  · split <;> exact trivial

/-- One round of copying. -/
def copyRound (read : Nat → Program (Except SystemError Bytes))
    (put : σ → Bytes → Program (Except SystemError Unit × σ)) (s : σ) :
    Program (σ ⊕ (Except SystemError Unit × σ)) :=
  (read chunk).bind fun
    | .ok [] => .done (.inr (.ok (), s))
    | .ok data => (put s data).bind fun
      | (.ok (), s) => .done (.inl s)
      | (.error reason, s) => .done (.inr (.error reason, s))
    | .error reason =>
      if reason == .os .EINTR then .done (.inl s) else .done (.inr (.error reason, s))

theorem copy_eq_iterate (read : Nat → Program (Except SystemError Bytes))
    (put : σ → Bytes → Program (Except SystemError Unit × σ)) (s : σ) :
    copy read put s = .iterate s (copyRound read put) := by
  refine congrArg (Program.iterate s) (funext fun s => congrArg _ (funext fun r => ?_))
  rcases r with reason | _ | ⟨first, others⟩
  · rfl
  · rfl
  · refine congrArg (Program.bind (put s (first :: others))) (funext fun r => ?_)
    obtain ⟨_ | _, s⟩ := r <;> rfl

theorem copy_only (ofRead : ∀ count, (read count).Only P) (ofPut : ∀ s data, (put s data).Only P)
    (s : σ) : (copy read put s).Only P := by
  refine ⟨fun s => (ofRead _).bind fun r => ?_, fun _ => trivial⟩
  split
  · exact trivial
  · refine (ofPut _ _).bind fun r => ?_
    split <;> exact trivial
  · split <;> exact trivial

end Transfer

/-- Where a panic is noted: among the diagnostics. -/
theorem FrontEnd.panicNote_only {P : Call → Prop}
    (ofWrite : ∀ data, P (.write standardError data)) (reason : String) :
    (panicNote reason).Only P := by
  refine (Transfer.writeAll_only (fun data => ?_) _).bind fun _ => trivial
  exact writeStream_only ofWrite data

/-! ### What is done aside -/

/-- A request that is made aside from copying the output and closing the coprocess. -/
def Host.Call.IsAside : Call → Prop
  | .duplicate _ _ _ | .close _ | .log (.droppedUnreaped _) => True
  | .write fd _ => fd = standardError
  | _ => False

/-- All that passes is requested aside. -/
def Aside (t : List Exchange) : Prop := ∀ x ∈ t, ∃ c r, x = .reply c r ∧ c.IsAside

namespace Handle

variable {h : Handle}

theorem aside_of_cloneInput {r : Except SystemError Fd} (run : h.cloneInput.Yields t r) :
    Aside t :=
  run.forall_of_only (h.cloneInput_only fun _ _ _ => trivial)

theorem aside_of_closeInput {r : Handle × Bool} (run : h.closeInput.Yields t r) : Aside t :=
  run.forall_of_only (h.closeInput_only fun _ _ => trivial)

theorem Dropping.aside (dropping : h.Dropping t) : Aside t := by
  have run : h.drop.Yields t () := yields_drop_iff.2 dropping
  exact run.forall_of_only (h.drop_only (fun _ => trivial) trivial)

end Handle

theorem FrontEnd.aside_of_panicNote {reason : String} (run : (panicNote reason).Yields t ()) :
    Aside t :=
  run.forall_of_only (panicNote_only (fun _ => rfl) reason)

namespace FrontEnd

/-! ### Panicking -/

/-- The reason of a panic for want of a thread. -/
def spawnReason (reason : Errno) : String :=
  "failed to spawn thread: " ++ (SystemError.os reason).message

/-- What a relay does that is refused its thread. -/
def relayPanic (h : Handle) (input : Fd) (reason : Errno) :
    Program (Option (Except RelayError Status) × LineBuffer) := do
  let _ ← request (.close input)
  panicNote (spawnReason reason)
  h.drop
  return (none, {})

/-- It closes what the thread was to hold, says why it panics, and gives the handle up. -/
theorem yields_relayPanic_iff {h : Handle} {input : Fd} {reason : Errno}
    {result : Option (Except RelayError Status)} {buffer : LineBuffer} :
    (relayPanic h input reason).Yields t (result, buffer) ↔
      ∃ closed noting dropping, t = .reply (.close input) closed :: (noting ++ dropping) ∧
        (panicNote (spawnReason reason)).Yields noting () ∧ h.Dropping dropping ∧
        result = none ∧ buffer = {} := by
  constructor
  · intro run
    obtain ⟨closed, _, rfl, rest⟩ := yields_call_iff.1 run
    rw [done_bind] at rest
    obtain ⟨noting, _, _, rfl, notes, rest⟩ := yields_bind_iff.1 rest
    obtain ⟨dropping, _, _, rfl, dropped, last⟩ := yields_bind_iff.1 rest
    obtain ⟨rfl, ⟨⟩⟩ := yields_done_iff.1 last
    rw [List.append_nil]
    exact ⟨closed, noting, dropping, rfl, notes, Handle.yields_drop_iff.1 dropped, rfl, rfl⟩
  · rintro ⟨closed, noting, dropping, rfl, notes, dropped, rfl, rfl⟩
    have last : (h.drop.bind fun _ => Program.done
        ((none, {}) : Option (Except RelayError Status) × LineBuffer)).Yields (dropping ++ []) _ :=
      (Handle.yields_drop_iff.2 dropped : h.drop.Yields dropping ()).bind (.done _)
    rw [List.append_nil] at last
    exact .call (notes.bind last)

/-! ### The ways of a relay -/

/-- What a relay says once the coprocess is closed. -/
def doneNote : Except Failure Status → List Exchange
  | .ok status => [.reply (.log (.commandLineDone status)) ()]
  | .error _ => []

/-- How a relay of a handle can go: by which exchanges, with what result if it does not panic, and
what is still held back. -/
inductive Relayed (h : Handle) :
    List Exchange → Option (Except RelayError Status) → LineBuffer → Prop
  /-- The input cannot be duplicated, and the handle is given up. -/
  | refused {reason : SystemError} {cloning dropping : List Exchange} :
      h.cloneInput.Yields cloning (.error reason) → h.Dropping dropping →
      Relayed h (cloning ++ dropping) (some (.error (.input reason))) {}
  /-- The thread is refused, and the handle is given up. -/
  | panicked {input : Fd} {h₁ : Handle} {ended : Bool} {reason : Errno}
      {closed : Except Errno Unit} {cloning ending noting dropping : List Exchange} :
      h.cloneInput.Yields cloning (.ok input) → h.closeInput.Yields ending (h₁, ended) →
      (panicNote (spawnReason reason)).Yields noting () → h₁.Dropping dropping →
      Relayed h (cloning ++ ending ++ .spawn (forward input h₁.transport.isTerminal)
        (.error reason) :: .reply (.close input) closed :: (noting ++ dropping)) none {}
  /-- The output is copied, and the coprocess is closed whatever became of that. -/
  | finished {input : Fd} {h₁ h₂ : Handle} {ended : Bool} {copied : Except SystemError Unit}
      {closed : Except Failure Status} {buffer : LineBuffer}
      {cloning ending copying closing dropping : List Exchange} :
      h.cloneInput.Yields cloning (.ok input) → h.closeInput.Yields ending (h₁, ended) →
      (Transfer.copy h₁.read LineBuffer.put {}).Yields copying (copied, buffer) →
      h₁.close.Yields closing (h₂, closed) → h₂.Dropping dropping →
      Relayed h (cloning ++ ending ++ .spawn (forward input h₁.transport.isTerminal) (.ok ()) ::
        (copying ++ closing ++ doneNote closed ++ dropping)) (some (outcome copied closed)) buffer

/-- What a relay does after the coprocess is closed. -/
def relayEnd (h : Handle) (copied : Except SystemError Unit) (closed : Except Failure Status)
    (buffer : LineBuffer) : Program (Option (Except RelayError Status) × LineBuffer) := do
  if let .ok status := closed then tell (.commandLineDone status)
  h.drop
  return (some (outcome copied closed), buffer)

theorem yields_relayEnd_iff {h : Handle} {copied : Except SystemError Unit}
    {closed : Except Failure Status} {buffer buffer' : LineBuffer}
    {result : Option (Except RelayError Status)} :
    (relayEnd h copied closed buffer).Yields t (result, buffer') ↔
      ∃ dropping, t = doneNote closed ++ dropping ∧ h.Dropping dropping ∧
        result = some (outcome copied closed) ∧ buffer' = buffer := by
  have rest {t : List Exchange} : (h.drop.bind fun _ =>
      Program.done (some (outcome copied closed), buffer)).Yields t (result, buffer') ↔
      h.Dropping t ∧ result = some (outcome copied closed) ∧ buffer' = buffer := by
    simp only [yields_bind_iff, Handle.yields_drop_iff, yields_done_iff, Prod.mk.injEq]
    constructor
    · rintro ⟨t₁, _, _, rfl, dropping, rfl, same⟩
      rw [List.append_nil]
      exact ⟨dropping, same⟩
    · rintro ⟨dropping, same⟩
      exact ⟨t, (), [], (List.append_nil t).symm, dropping, rfl, same⟩
  cases closed with
  | error reason =>
    show (h.drop.bind fun _ => .done (some (outcome copied (.error reason)), buffer)).Yields _ _ ↔ _
    rw [rest]
    simp [doneNote]
  | ok status =>
    show (Program.call (.log (.commandLineDone status)) fun _ =>
      h.drop.bind fun _ => .done (some (outcome copied (.ok status)), buffer)).Yields _ _ ↔ _
    rw [yields_call_iff]
    constructor
    · rintro ⟨_, t, rfl, run⟩
      exact ⟨t, rfl, rest.1 run⟩
    · rintro ⟨t, rfl, run⟩
      exact ⟨(), t, rfl, rest.2 run⟩

theorem relay_eq (h : Handle) :
    relay h = h.cloneInput.bind fun
      | .error reason => h.drop.bind fun _ => .done (some (.error (.input reason)), {})
      | .ok input => h.closeInput.bind fun (h, _) =>
          .spawn (forward input h.transport.isTerminal) fun
            | .error reason => relayPanic h input reason
            | .ok () => (Transfer.copy h.read LineBuffer.put {}).bind fun (copied, buffer) =>
                h.close.bind fun (h, closed) => relayEnd h copied closed buffer := by
  rfl

/-- **Relaying.**  Every run of a relay goes in one of the ways that are listed. -/
theorem yields_relay_iff {h : Handle} {result : Option (Except RelayError Status)}
    {buffer : LineBuffer} :
    (relay h).Yields t (result, buffer) ↔ Relayed h t result buffer := by
  rw [relay_eq]
  constructor
  · intro run
    obtain ⟨cloning, _ | input, _, rfl, cloned, rest⟩ := yields_bind_iff.1 run
    · obtain ⟨dropping, _, _, rfl, dropped, last⟩ := yields_bind_iff.1 rest
      obtain ⟨rfl, ⟨⟩⟩ := yields_done_iff.1 last
      rw [List.append_nil]
      exact .refused cloned (Handle.yields_drop_iff.1 dropped)
    · obtain ⟨ending, ⟨h₁, ended⟩, _, rfl, inputClosed, spawned⟩ := yields_bind_iff.1 rest
      obtain ⟨_ | _, _, rfl, beside⟩ := yields_spawn_iff.1 spawned
      · obtain ⟨_, _, _, rfl, notes, dropped, rfl, rfl⟩ := yields_relayPanic_iff.1 beside
        rw [← List.append_assoc]
        exact .panicked cloned inputClosed notes dropped
      obtain ⟨copying, ⟨copied, b⟩, _, rfl, copies, after⟩ := yields_bind_iff.1 beside
      obtain ⟨closing, ⟨h₂, closed⟩, _, rfl, closes, last⟩ := yields_bind_iff.1 after
      obtain ⟨dropping, rfl, dropped, rfl, rfl⟩ := yields_relayEnd_iff.1 last
      have whole := Relayed.finished cloned inputClosed copies closes dropped
      simpa only [List.append_assoc] using whole
  · intro relayed
    cases relayed with
    | refused cloned dropped =>
      refine cloned.bind (yields_bind_iff.2 ⟨_, (), [], ?_, Handle.yields_drop_iff.2 dropped,
        .done _⟩)
      exact (List.append_nil _).symm
    | @panicked input h₁ _ reason closed _ _ noting dropping cloned inputClosed notes dropped =>
      have last : (relayPanic h₁ input reason).Yields
          (.reply (.close input) closed :: (noting ++ dropping)) (none, {}) :=
        yields_relayPanic_iff.2 ⟨closed, noting, dropping, rfl, notes, dropped, rfl, rfl⟩
      rw [List.append_assoc]
      exact cloned.bind (inputClosed.bind (.spawn last))
    | @finished _ _ h₂ _ copied closed _ _ _ _ _ dropping cloned inputClosed copies closes
        dropped =>
      have last : (relayEnd h₂ copied closed buffer).Yields (doneNote closed ++ dropping) _ :=
        yields_relayEnd_iff.2 ⟨dropping, rfl, dropped, rfl, rfl⟩
      rw [List.append_assoc]
      refine cloned.bind (inputClosed.bind (.spawn ?_))
      simp only [List.append_assoc]
      exact copies.bind (closes.bind last)

end FrontEnd

end Coprocess
