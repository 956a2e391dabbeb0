import Coprocess.Handle
import Coprocess.Proofs.Runs

/-!
# The operations of a handle

What passes between a handle's operation and the host, exchange by exchange.  Closing a slot, a
transport and a handle are each described by a relation between the state before and the exchanges,
and the operation's runs are exactly those in the relation, whatever the host answers.

Main statements:
* `yields_awaitStatus_iff`: a wait goes on through any number of answers that decide nothing, and
  the first that decides is its result;
* `yields_close_iff`: a close closes every descriptor, then waits unless the status is known.
-/

namespace Coprocess

open Host Program

/-- The descriptor that an exchange closes, if it is a request to close one. -/
def Host.Exchange.closed? : Exchange → Option Fd
  | .reply (.close fd) _ => some fd
  | _ => none

/-! ### Slots -/

namespace Slot

/-- The exchanges by which a slot is closed: one request if it is open, whatever the answer, and
none if it is closed already. -/
def Closing (s : Slot) (t : List Exchange) : Prop :=
  match s.fd with
  | some fd => ∃ r, t = [.reply (.close fd) r]
  | none => t = []

theorem yields_close_iff {s s' : Slot} {t : List Exchange} {closed : Bool} :
    s.close.Yields t (s', closed) ↔ s.Closing t ∧ s' = empty ∧ closed = !s.isClosed := by
  rcases s with ⟨_ | fd⟩
  · simp [close, Closing, isClosed, empty]
  · simp [close, Closing, isClosed, request]

theorem Closing.filterMap_closed? {s : Slot} {t : List Exchange} (h : s.Closing t) :
    t.filterMap Exchange.closed? = s.fd.toList := by
  rcases s with ⟨_ | fd⟩
  · cases h
    rfl
  · obtain ⟨r, rfl⟩ := h
    rfl

theorem close_only {P : Call → Prop} (s : Slot) (ofClose : ∀ fd, P (.close fd)) :
    s.close.Only P := by
  rcases s with ⟨_ | fd⟩
  · exact trivial
  · exact ⟨ofClose fd, fun _ => trivial⟩

end Slot

/-! ### Transports -/

namespace Transport

/-- The descriptors that are still open, in the order in which they are closed. -/
def fds : Transport → List Fd
  | pipes input output => input.fd.toList ++ output.fd.toList
  | terminal master _ => master.fd.toList

/-- The same channel with every descriptor closed. -/
def emptied : Transport → Transport
  | pipes _ _ => pipes .empty .empty
  | terminal _ slaveName => terminal .empty slaveName

/-- The exchanges by which a slave is released: the request, and word of it if it is refused. -/
def Releasing (during : Origin) (slaveName : String) (t : List Exchange) : Prop :=
  (∃ r, t = [.reply (.releaseTerminal slaveName) (.ok r)]) ∨
  ∃ reason : Failure, t = [.reply (.releaseTerminal slaveName) (.error reason),
    .reply (.log (.releaseFailed during slaveName reason.message)) ()]

/-- The exchanges by which a transport is closed.  A slave is released while its master is open. -/
def Closing : Transport → List Exchange → Prop
  | pipes input output, t => ∃ t₁ t₂, t = t₁ ++ t₂ ∧ input.Closing t₁ ∧ output.Closing t₂
  | terminal master slaveName, t =>
    if master.isClosed then t = []
    else ∃ t₁ t₂, t = t₁ ++ t₂ ∧ Releasing .lifecycle slaveName t₁ ∧ master.Closing t₂

theorem isClosed_iff {T : Transport} :
    T.isClosed = true ↔ T.input = .empty ∧ T.output = .empty := by
  cases T <;> simp [isClosed, input, output, Slot.isClosed_iff]

@[simp] theorem input_emptied (T : Transport) : T.emptied.input = .empty := by
  cases T <;> rfl

@[simp] theorem output_emptied (T : Transport) : T.emptied.output = .empty := by
  cases T <;> rfl

@[simp] theorem isTerminal_emptied (T : Transport) : T.emptied.isTerminal = T.isTerminal := by
  cases T <;> rfl

theorem Releasing.filterMap_closed? {during : Origin} {slaveName : String} {t : List Exchange}
    (h : Releasing during slaveName t) : t.filterMap Exchange.closed? = [] := by
  rcases h with ⟨r, rfl⟩ | ⟨reason, rfl⟩ <;> rfl

/-- Closing a transport closes each of its open descriptors once, and nothing else. -/
theorem Closing.filterMap_closed? {T : Transport} {t : List Exchange} (h : T.Closing t) :
    t.filterMap Exchange.closed? = T.fds := by
  cases T with
  | pipes input output =>
    obtain ⟨t₁, t₂, rfl, h₁, h₂⟩ := h
    rw [List.filterMap_append, h₁.filterMap_closed?, h₂.filterMap_closed?, fds]
  | terminal master slaveName =>
    simp only [Closing] at h
    split at h
    next closed =>
      subst h
      rw [Slot.isClosed_iff] at closed
      rw [fds, closed]
      rfl
    next =>
      obtain ⟨t₁, t₂, rfl, h₁, h₂⟩ := h
      rw [List.filterMap_append, h₁.filterMap_closed?, h₂.filterMap_closed?, fds, List.nil_append]

end Transport

namespace Handle

theorem yields_release_iff {during : Origin} {slaveName : String} {t : List Exchange} {u : Unit} :
    (release during slaveName).Yields t u ↔ Transport.Releasing during slaveName t := by
  simp only [release, request, bind_eq, call_bind, done_bind, yields_call_iff]
  constructor
  · rintro ⟨_ | _, t, rfl, h⟩
    · exact .inr ⟨_, by rw [yields_request_iff.1 h]⟩
    · exact .inl ⟨_, by rw [(yields_done_iff.1 h).1]⟩
  · rintro (⟨r, rfl⟩ | ⟨reason, rfl⟩)
    · exact ⟨_, _, rfl, .done _⟩
    · exact ⟨_, _, rfl, .call (.done _)⟩

theorem yields_closeTransport_iff {T T' : Transport} {t : List Exchange} :
    (closeTransport T).Yields t T' ↔ T.Closing t ∧ T' = T.emptied := by
  cases T with
  | pipes input output =>
    simp only [closeTransport, bind_eq, pure_eq, yields_bind_iff, Prod.exists,
      Slot.yields_close_iff, yields_done_iff, Transport.Closing, Transport.emptied]
    constructor
    · rintro ⟨t₁, _, _, _, rfl, ⟨h₁, rfl, -⟩, t₂, _, _, _, rfl, ⟨h₂, rfl, -⟩, rfl, rfl⟩
      exact ⟨⟨t₁, t₂, by rw [List.append_nil], h₁, h₂⟩, rfl⟩
    · rintro ⟨⟨t₁, t₂, rfl, h₁, h₂⟩, rfl⟩
      exact ⟨t₁, _, _, t₂, rfl, ⟨h₁, rfl, rfl⟩, t₂, _, _, [], (List.append_nil _).symm,
        ⟨h₂, rfl, rfl⟩, rfl, rfl⟩
  | terminal master slaveName =>
    by_cases closed : master.isClosed = true
    · rw [closeTransport, if_pos closed, Transport.Closing, if_pos closed, pure_eq,
        yields_done_iff, Transport.emptied, Slot.isClosed_iff.1 closed]
    · simp only [closeTransport, if_neg closed, bind_eq, pure_eq, yields_bind_iff, Prod.exists,
        yields_release_iff, Slot.yields_close_iff, yields_done_iff, Transport.Closing,
        Transport.emptied]
      constructor
      · rintro ⟨t₁, _, _, rfl, h₁, t₂, _, _, _, rfl, ⟨h₂, rfl, -⟩, rfl, rfl⟩
        exact ⟨⟨t₁, t₂, by rw [List.append_nil], h₁, h₂⟩, rfl⟩
      · rintro ⟨⟨t₁, t₂, rfl, h₁, h₂⟩, rfl⟩
        exact ⟨t₁, (), t₂, rfl, h₁, t₂, _, _, [], (List.append_nil _).symm, ⟨h₂, rfl, rfl⟩,
          rfl, rfl⟩

theorem yields_closeInput_iff {h h' : Handle} {t : List Exchange} {closed : Bool} :
    h.closeInput.Yields t (h', closed) ↔
      match h.transport with
      | .pipes input output => input.Closing t ∧
          h' = { h with transport := .pipes .empty output } ∧ closed = !input.isClosed
      | .terminal _ _ => t = [] ∧ h' = h ∧ closed = false := by
  rcases h with ⟨pid, ⟨input, output⟩ | ⟨master, slaveName⟩, status⟩
  · simp only [closeInput, bind_eq, pure_eq, yields_bind_iff, Prod.exists, Slot.yields_close_iff,
      yields_done_iff, Prod.mk.injEq]
    constructor
    · rintro ⟨t, _, _, _, rfl, ⟨closing, rfl, rfl⟩, rfl, rfl, rfl⟩
      rw [List.append_nil]
      exact ⟨closing, rfl, rfl⟩
    · rintro ⟨closing, rfl, rfl⟩
      exact ⟨t, _, _, [], (List.append_nil _).symm, ⟨closing, rfl, rfl⟩, rfl, rfl, rfl⟩
  · simp only [closeInput, pure_eq, yields_done_iff, Prod.mk.injEq]

/-! ### Waiting -/

/-- What the host answers to a wait. -/
abbrev WaitAnswer := Except Errno (Pid × WaitReport)

/-- What a wait makes of an answer, or nothing if it asks again: an interruption, a stop, a
continuation and a child that is still alive are no end.  The report of a signal without a name
cannot be read, and that is an error like any other. -/
def verdict : WaitAnswer → Option (Except Failure Status)
  | .error reason => if reason = .EINTR then none else some (.error (.system "waitpid" reason))
  | .ok (_, .exited code) => some (.ok (.exited code))
  | .ok (_, .killed signal coreDumped) =>
    if signal ≤ lastNamedSignal then some (.ok (.signaled signal coreDumped))
    else some (.error (.system "waitpid" .EINVAL))
  | .ok (_, .stopped signal) =>
    if signal ≤ lastNamedSignal then none else some (.error (.system "waitpid" .EINVAL))
  | .ok (_, .continued) => none
  | .ok (_, .stillAlive) => none

/-- The exchanges of waits for one child. -/
def waits (pid : Pid) (answers : List WaitAnswer) : List Exchange :=
  answers.map fun answer => .reply (.wait (some pid) true) answer

@[simp] theorem filterMap_closed?_waits (pid : Pid) (answers : List WaitAnswer) :
    (waits pid answers).filterMap Exchange.closed? = [] := by
  induction answers with
  | nil => rfl
  | cons answer answers ih => exact ih

/-- One round of a wait. -/
def waitRound (pid : Pid) : Program (Unit ⊕ Except Failure Status) :=
  .call (.wait (some pid) true) fun answer =>
    match verdict answer with
    | none => .done (.inl ())
    | some result => .done (.inr result)

theorem awaitStatus_eq (pid : Pid) :
    awaitStatus pid = .iterate () fun _ => waitRound pid := by
  unfold awaitStatus waitRound
  congr
  funext _
  refine congrArg (Program.call _) (funext fun answer => ?_)
  rcases answer with reason | ⟨_, _ | ⟨signal, core⟩ | signal | _ | _⟩
  · by_cases h : reason = .EINTR <;> simp [verdict, h]
  · rfl
  · by_cases h : signal ≤ lastNamedSignal <;> simp [verdict, WaitReport.decode, h]
  · by_cases h : signal ≤ lastNamedSignal <;> simp [verdict, WaitReport.decode, h]
  · rfl
  · rfl

theorem yields_waitRound_iff {pid : Pid} {t : List Exchange}
    {next : Unit ⊕ Except Failure Status} :
    (waitRound pid).Yields t next ↔ ∃ answer, t = waits pid [answer] ∧
      match verdict answer with
      | none => next = .inl ()
      | some result => next = .inr result := by
  simp only [waitRound, yields_call_iff]
  constructor
  · rintro ⟨answer, t, rfl, h⟩
    refine ⟨answer, ?_⟩
    split at h <;> obtain ⟨rfl, rfl⟩ := yields_done_iff.1 h <;> exact ⟨rfl, rfl⟩
  · rintro ⟨answer, rfl, h⟩
    refine ⟨answer, [], rfl, ?_⟩
    split at h <;> subst h <;> exact .done _

/-- **Waiting.**  Answers that decide nothing are passed over, however many there are, and the first
that decides is the result. -/
theorem yields_awaitStatus_iff {pid : Pid} {t : List Exchange} {result : Except Failure Status} :
    (awaitStatus pid).Yields t result ↔ ∃ skipped last, t = waits pid (skipped ++ [last]) ∧
      (∀ answer ∈ skipped, verdict answer = none) ∧ verdict last = some result := by
  rw [awaitStatus_eq]
  constructor
  · intro run
    refine run.iterate_induction (P := fun _ t result => ∃ skipped last,
      t = waits pid (skipped ++ [last]) ∧ (∀ answer ∈ skipped, verdict answer = none) ∧
        verdict last = some result) ?_ ?_
    · intro _ t result round
      obtain ⟨last, rfl, h⟩ := yields_waitRound_iff.1 round
      split at h
      · cases h
      next decided =>
        cases h
        exact ⟨[], last, rfl, by simp, decided⟩
    · rintro _ _ t _ result round ⟨skipped, last, rfl, passed, decided⟩
      obtain ⟨answer, rfl, h⟩ := yields_waitRound_iff.1 round
      split at h
      next undecided =>
        refine ⟨answer :: skipped, last, rfl, ?_, decided⟩
        rw [List.forall_mem_cons]
        exact ⟨undecided, passed⟩
      · cases h
  · rintro ⟨skipped, last, rfl, passed, decided⟩
    rw [iterate]
    induction skipped with
    | nil =>
      have round : (waitRound pid).Yields (waits pid [last]) (.inr result) :=
        yields_waitRound_iff.2 ⟨last, rfl, by rw [decided]⟩
      exact yields_loop_iff.2 (.inl ⟨result, _, [], rfl, round, .done _⟩)
    | cons answer skipped ih =>
      rw [List.forall_mem_cons] at passed
      have round : (waitRound pid).Yields (waits pid [answer]) (.inl ()) :=
        yields_waitRound_iff.2 ⟨answer, rfl, by rw [passed.1]⟩
      exact yields_loop_iff.2 (.inr ⟨(), _, _, rfl, round, ih passed.2⟩)

theorem asks_waitRound_iff {pid : Pid} {t : List Exchange} {c : Call} :
    (waitRound pid).Asks t c ↔ t = [] ∧ c = .wait (some pid) true := by
  rw [waitRound, asks_call_iff]
  constructor
  · rintro (h | ⟨answer, t, rfl, h⟩)
    · exact h
    · split at h <;> cases h
  · exact .inl

/-- After any number of answers that decide nothing a wait asks once more, and it asks for nothing
else. -/
theorem asks_awaitStatus_iff {pid : Pid} {t : List Exchange} {c : Call} :
    (awaitStatus pid).Asks t c ↔ c = .wait (some pid) true ∧
      ∃ skipped, t = waits pid skipped ∧ ∀ answer ∈ skipped, verdict answer = none := by
  rw [awaitStatus_eq]
  constructor
  · intro asks
    refine asks.iterate_induction (P := fun _ t => c = .wait (some pid) true ∧
      ∃ skipped, t = waits pid skipped ∧ ∀ answer ∈ skipped, verdict answer = none) ?_ ?_
    · intro _ t round
      obtain ⟨rfl, rfl⟩ := asks_waitRound_iff.1 round
      exact ⟨rfl, [], rfl, by simp⟩
    · rintro _ _ t _ round ⟨rfl, skipped, rfl, passed⟩
      obtain ⟨answer, rfl, h⟩ := yields_waitRound_iff.1 round
      split at h
      next undecided =>
        refine ⟨rfl, answer :: skipped, rfl, ?_⟩
        rw [List.forall_mem_cons]
        exact ⟨undecided, passed⟩
      · cases h
  · rintro ⟨rfl, skipped, rfl, passed⟩
    rw [iterate]
    induction skipped with
    | nil => exact .within (asks_waitRound_iff.2 ⟨rfl, rfl⟩)
    | cons answer skipped ih =>
      rw [List.forall_mem_cons] at passed
      have round : (waitRound pid).Yields (waits pid [answer]) (.inl ()) :=
        yields_waitRound_iff.2 ⟨answer, rfl, by rw [passed.1]⟩
      exact .again round (ih passed.2)

/-! ### Closing a handle -/

/-- The handle with every descriptor closed. -/
def emptied (h : Handle) : Handle := { h with transport := h.transport.emptied }

@[simp] theorem transport_emptied (h : Handle) : h.emptied.transport = h.transport.emptied := rfl

/-- What is said of a handle once its descriptors are closed. -/
def closedNote (h : Handle) : Exchange := .reply (.log (.descriptorsClosed h.pid)) ()

/-- How a close goes on once the descriptors are closed: by the exchanges of the second argument the
handle becomes that of the third, and the result is the last. -/
inductive Reaping (h : Handle) :
    List Exchange → Handle → Except Failure Status → Prop
  /-- A status that is known is the result, and nobody waits. -/
  | known {status : Status} (known : h.status = some status) : Reaping h [] h (.ok status)
  /-- A wait that fails leaves the handle as it is. -/
  | failed {skipped : List WaitAnswer} {last : WaitAnswer} {reason : Failure}
      (unknown : h.status = none) (passed : ∀ answer ∈ skipped, verdict answer = none)
      (decided : verdict last = some (.error reason)) :
      Reaping h (waits h.pid (skipped ++ [last])) h (.error reason)
  /-- The status that a wait comes to is kept. -/
  | ended {skipped : List WaitAnswer} {last : WaitAnswer} {status : Status}
      (unknown : h.status = none) (passed : ∀ answer ∈ skipped, verdict answer = none)
      (decided : verdict last = some (.ok status)) :
      Reaping h (waits h.pid (skipped ++ [last]) ++ [.reply (.log (.waited h.pid status)) ()])
        { h with status := some status } (.ok status)

/-- The second half of a close. -/
def reap (h : Handle) : Program (Handle × Except Failure Status) :=
  match h.status with
  | some status => .done (h, .ok status)
  | none => (awaitStatus h.pid).bind fun
    | .error reason => .done (h, .error reason)
    | .ok status => .call (.log (.waited h.pid status)) fun _ =>
        .done ({ h with status := some status }, .ok status)

theorem close_eq (h : Handle) :
    h.close = (closeTransport h.transport).bind fun T =>
      .call (.log (.descriptorsClosed h.pid)) fun _ => reap { h with transport := T } := by
  rcases h with ⟨pid, T, _ | status⟩
  · rfl
  · rfl

theorem yields_reap_iff {h h' : Handle} {t : List Exchange} {result : Except Failure Status} :
    h.reap.Yields t (h', result) ↔ h.Reaping t h' result := by
  rw [reap]
  split
  next status known =>
    rw [yields_done_iff, Prod.mk.injEq]
    constructor
    · rintro ⟨rfl, rfl, rfl⟩
      exact .known known
    · rintro (known' | ⟨unknown, _, _⟩ | ⟨unknown, _, _⟩)
      · rw [known] at known'
        cases known'
        exact ⟨rfl, rfl, rfl⟩
      · cases known.symm.trans unknown
      · cases known.symm.trans unknown
  next unknown =>
    rw [yields_bind_iff]
    constructor
    · rintro ⟨t₁, verdict, t₂, rfl, waiting, rest⟩
      obtain ⟨skipped, last, rfl, passed, decided⟩ := yields_awaitStatus_iff.1 waiting
      cases verdict with
      | error reason =>
        obtain ⟨rfl, ⟨⟩⟩ := yields_done_iff.1 rest
        rw [List.append_nil]
        exact .failed unknown passed decided
      | ok status =>
        obtain ⟨⟨⟩, _, rfl, told⟩ := yields_call_iff.1 rest
        obtain ⟨rfl, ⟨⟩⟩ := yields_done_iff.1 told
        exact .ended unknown passed decided
    · rintro (known | ⟨-, passed, decided⟩ | ⟨-, passed, decided⟩)
      · cases known.symm.trans unknown
      · exact ⟨_, _, [], (List.append_nil _).symm,
          yields_awaitStatus_iff.2 ⟨_, _, rfl, passed, decided⟩, .done _⟩
      · exact ⟨_, _, _, rfl, yields_awaitStatus_iff.2 ⟨_, _, rfl, passed, decided⟩,
          .call (.done _)⟩

/-- **Closing.**  Every open descriptor is closed, and then the handle waits unless the status is
known. -/
theorem yields_close_iff {h h' : Handle} {t : List Exchange} {result : Except Failure Status} :
    h.close.Yields t (h', result) ↔ ∃ t₁ t₂, t = t₁ ++ h.closedNote :: t₂ ∧
      h.transport.Closing t₁ ∧ h.emptied.Reaping t₂ h' result := by
  rw [close_eq, yields_bind_iff]
  constructor
  · rintro ⟨t₁, T, _, rfl, closes, rest⟩
    obtain ⟨closing, rfl⟩ := yields_closeTransport_iff.1 closes
    obtain ⟨⟨⟩, t₂, rfl, reaping⟩ := yields_call_iff.1 rest
    exact ⟨t₁, t₂, rfl, closing, yields_reap_iff.1 reaping⟩
  · rintro ⟨t₁, t₂, rfl, closing, reaping⟩
    exact ⟨t₁, _, _, rfl, yields_closeTransport_iff.2 ⟨closing, rfl⟩,
      .call (yields_reap_iff.2 reaping)⟩

theorem asks_reap_iff {h : Handle} {t : List Exchange} {child : Option Pid} {block : Bool} :
    h.reap.Asks t (.wait child block) ↔ h.status = none ∧ child = some h.pid ∧ block = true ∧
      ∃ skipped, t = waits h.pid skipped ∧ ∀ answer ∈ skipped, verdict answer = none := by
  rw [reap]
  split
  next status known => simp [known]
  next unknown =>
    rw [asks_bind_iff, asks_awaitStatus_iff, Call.wait.injEq]
    constructor
    · rintro (⟨⟨rfl, rfl⟩, asks⟩ | ⟨_, verdict, _, -, -, rest⟩)
      · exact ⟨unknown, rfl, rfl, asks⟩
      · cases verdict <;> simp at rest
    · rintro ⟨-, rfl, rfl, asks⟩
      exact .inl ⟨⟨rfl, rfl⟩, asks⟩

/-! ### What the operations ask for -/

section Only

variable {P : Call → Prop} (h : Handle)

theorem read_only (ofRead : ∀ fd count, P (.read fd count)) (count : Nat) :
    (h.read count).Only P := by
  rw [read]
  split
  · exact trivial
  · refine ⟨ofRead _ _, fun answer => ?_⟩
    rcases answer with reason | data
    · show Only _ (if _ then _ else _)
      split <;> exact trivial
    · exact trivial

theorem write_only (ofWrite : ∀ fd data, P (.write fd data)) (data : Bytes) :
    (h.write data).Only P := by
  rw [write]
  split
  · exact trivial
  · exact ⟨ofWrite _ _, fun _ => trivial⟩

theorem cloneInput_only (ofDuplicate : ∀ fd least cloexec, P (.duplicate fd least cloexec)) :
    h.cloneInput.Only P := by
  rw [cloneInput]
  split
  · exact trivial
  · exact ⟨ofDuplicate _ _ _, fun _ => trivial⟩

/-- The input of a terminal is never closed by itself. -/
theorem closeInput_only (ofClose : h.transport.isTerminal = false → ∀ fd, P (.close fd)) :
    h.closeInput.Only P := by
  rw [closeInput]
  split
  next input _ pipes =>
    refine (Slot.close_only _ (ofClose ?_)).bind fun _ => trivial
    rw [pipes]
    rfl
  · exact trivial

end Only

/-- What closing a transport asks for. -/
theorem closeTransport_only {P : Call → Prop} (T : Transport) (ofClose : ∀ fd, P (.close fd))
    (ofRelease : ∀ slaveName, P (.releaseTerminal slaveName)) (ofLog : ∀ e, P (.log e)) :
    (closeTransport T).Only P := by
  cases T with
  | pipes input output =>
    exact (input.close_only ofClose).bind fun _ => (output.close_only ofClose).bind fun _ => trivial
  | terminal master slaveName =>
    rw [closeTransport]
    split
    · exact trivial
    · refine Only.bind ?_ fun _ => (master.close_only ofClose).bind fun _ => trivial
      refine ⟨ofRelease _, ?_⟩
      rintro (reason | _)
      · exact ⟨ofLog _, fun _ => trivial⟩
      · exact trivial

/-- **When a close waits.**  It does so only while the status is not known, only for the handle's
child, and only after all that was open has been closed; and it asks again after any number of
answers that decide nothing. -/
theorem asks_wait_close_iff {h : Handle} {t : List Exchange} {child : Option Pid} {block : Bool} :
    h.close.Asks t (.wait child block) ↔
      h.status = none ∧ child = some h.pid ∧ block = true ∧
        ∃ t₁ skipped, t = t₁ ++ h.closedNote :: waits h.pid skipped ∧ h.transport.Closing t₁ ∧
          ∀ answer ∈ skipped, verdict answer = none := by
  rw [close_eq, asks_bind_iff]
  constructor
  · rintro (asks | ⟨t₁, T, _, rfl, closes, rest⟩)
    · have only : (closeTransport h.transport).Only fun c => ∀ child block, c ≠ .wait child block :=
        closeTransport_only _ nofun nofun nofun
      exact absurd rfl (asks.of_only only child block)
    · obtain ⟨closing, rfl⟩ := yields_closeTransport_iff.1 closes
      rcases asks_call_iff.1 rest with ⟨-, ⟨⟩⟩ | ⟨⟨⟩, t₂, rfl, reaping⟩
      obtain ⟨unknown, rfl, rfl, skipped, rfl, passed⟩ := asks_reap_iff.1 reaping
      exact ⟨unknown, rfl, rfl, t₁, skipped, rfl, closing, passed⟩
  · rintro ⟨unknown, rfl, rfl, t₁, skipped, rfl, closing, passed⟩
    refine .inr ⟨t₁, _, _, rfl, yields_closeTransport_iff.2 ⟨closing, rfl⟩, .call ?_⟩
    exact asks_reap_iff.2 ⟨unknown, rfl, rfl, skipped, rfl, passed⟩

end Handle

end Coprocess
