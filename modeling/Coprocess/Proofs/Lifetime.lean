import Coprocess.Proofs.Operations

/-!
# The lifetime of a handle

What a caller can see of a handle is a sequence of operations, each with what passed between it and
the host.  `Lifetime h es h'` says that the episodes `es` lead from the handle `h` to `h'`; the
handle may be one that was just launched or any other, and the host may answer as it likes.

All that happens to a handle happens in one direction: a slot is closed and never opened, and a
status is learned and never forgotten.  `Handle.Fades` is that relation.  It holds from before an
episode to after it, and is transitive, so it holds along a lifetime (`Lifetime.fades`); everything
that is said of later times follows from it.

The main statement is `Lifetime.lawful`.
-/

namespace Coprocess

open Host Program

/-- What a caller can do with a handle. -/
inductive Operation where
  | read (count : Nat)
  | write (data : Bytes)
  | flush
  | closeInput
  | cloneInput
  | close
  | status

/-- What the caller is answered. -/
inductive Answer where
  | read (result : Except SystemError Bytes)
  | written (result : Except SystemError Nat)
  | flushed (result : Except SystemError Unit)
  | inputClosed (closed : Bool)
  | cloned (result : Except SystemError Fd)
  | ended (result : Except Failure Status)
  | status (known : Option Status)

namespace Handle

/-- Carries out an operation, and gives the handle back with the answer. -/
def perform (h : Handle) : Operation → Program (Handle × Answer)
  | .read count => do return (h, .read (← h.read count))
  | .write data => do return (h, .written (← h.write data))
  | .flush => do return (h, .flushed (← h.flush))
  | .closeInput => do
    let (h, closed) ← h.closeInput
    return (h, .inputClosed closed)
  | .cloneInput => do return (h, .cloned (← h.cloneInput))
  | .close => do
    let (h, result) ← h.close
    return (h, .ended result)
  | .status => return (h, .status h.status)

end Handle

/-- One operation on a handle, and what passed between it and the host. -/
structure Episode where
  before : Handle
  operation : Operation
  exchanges : List Exchange
  answer : Answer
  after : Handle
  run : (before.perform operation).Yields exchanges (after, answer)

/-- `Lifetime h es h'`: the episodes `es`, each beginning with the handle that the one before it has
left, lead from `h` to `h'`. -/
inductive Lifetime : Handle → List Episode → Handle → Prop
  | nil (h : Handle) : Lifetime h [] h
  | cons (e : Episode) {es : List Episode} {h : Handle} :
      Lifetime e.after es h → Lifetime e.before (e :: es) h

/-! ### What an operation changes -/

/-- The second handle is the first at a later time: a slot is what it was or is closed, and a status
that was known still is. -/
structure Handle.Fades (h h' : Handle) : Prop where
  pid : h'.pid = h.pid
  isTerminal : h'.transport.isTerminal = h.transport.isTerminal
  input : h'.transport.input = h.transport.input ∨ h'.transport.input = .empty
  output : h'.transport.output = h.transport.output ∨ h'.transport.output = .empty
  status : ∀ s, h.status = some s → h'.status = some s

namespace Handle

theorem Fades.refl (h : Handle) : h.Fades h := ⟨rfl, rfl, .inl rfl, .inl rfl, fun _ known => known⟩

theorem Fades.trans {h h' h'' : Handle} (first : h.Fades h') (second : h'.Fades h'') :
    h.Fades h'' where
  pid := second.pid.trans first.pid
  isTerminal := second.isTerminal.trans first.isTerminal
  input := by
    rcases second.input with same | closed
    · rw [same]
      exact first.input
    · exact .inr closed
  output := by
    rcases second.output with same | closed
    · rw [same]
      exact first.output
    · exact .inr closed
  status s known := second.status s (first.status s known)

theorem Fades.input_eq_empty {h h' : Handle} (fades : h.Fades h')
    (closed : h.transport.input = .empty) : h'.transport.input = .empty := by
  rcases fades.input with same | closed'
  · rw [same, closed]
  · exact closed'

theorem Fades.output_eq_empty {h h' : Handle} (fades : h.Fades h')
    (closed : h.transport.output = .empty) : h'.transport.output = .empty := by
  rcases fades.output with same | closed'
  · rw [same, closed]
  · exact closed'

theorem fades_emptied (h : Handle) : h.Fades h.emptied where
  pid := rfl
  isTerminal := h.transport.isTerminal_emptied
  input := .inr h.transport.input_emptied
  output := .inr h.transport.output_emptied
  status _ known := known

theorem Reaping.fades {h h' : Handle} {t : List Exchange} {result : Except Failure Status}
    (reaping : h.Reaping t h' result) : h.Fades h' := by
  cases reaping with
  | known => exact .refl h
  | failed => exact .refl h
  | ended unknown =>
    refine ⟨rfl, rfl, .inl rfl, .inl rfl, fun s known => ?_⟩
    rw [known] at unknown
    cases unknown

theorem Reaping.transport_eq {h h' : Handle} {t : List Exchange} {result : Except Failure Status}
    (reaping : h.Reaping t h' result) : h'.transport = h.transport := by
  cases reaping <;> rfl

/-- The status that a close answers is kept. -/
theorem Reaping.status_eq {h h' : Handle} {t : List Exchange} {s : Status}
    (reaping : h.Reaping t h' (.ok s)) : h'.status = some s := by
  cases reaping with
  | known known => exact known
  | ended => rfl

theorem fades_of_closeInput {h h' : Handle} {t : List Exchange} {closed : Bool}
    (run : h.closeInput.Yields t (h', closed)) : h.Fades h' := by
  rcases h with ⟨pid, ⟨input, output⟩ | ⟨master, slaveName⟩, status⟩
  · obtain ⟨-, rfl, -⟩ := yields_closeInput_iff.1 run
    exact ⟨rfl, rfl, .inr rfl, .inl rfl, fun _ known => known⟩
  · obtain ⟨-, rfl, -⟩ := yields_closeInput_iff.1 run
    exact .refl _

theorem fades_of_close {h h' : Handle} {t : List Exchange} {result : Except Failure Status}
    (run : h.close.Yields t (h', result)) : h.Fades h' := by
  obtain ⟨_, _, rfl, -, reaping⟩ := yields_close_iff.1 run
  exact h.fades_emptied.trans reaping.fades

end Handle

/-- The three kinds of operations: the handle is only looked at, or its input is closed, or all of
it is. -/
theorem Handle.yields_perform_cases {h h' : Handle} {operation : Operation} {t : List Exchange}
    {answer : Answer} (run : (h.perform operation).Yields t (h', answer)) :
    (h' = h ∧ operation ≠ .closeInput ∧ operation ≠ .close ∧
      (∀ closed, answer ≠ .inputClosed closed) ∧ ∀ result, answer ≠ .ended result) ∨
    (operation = .closeInput ∧ ∃ closed, answer = .inputClosed closed ∧
      h.closeInput.Yields t (h', closed)) ∨
    (operation = .close ∧ ∃ result, answer = .ended result ∧ h.close.Yields t (h', result)) := by
  -- An operation that gives the handle back as it was says so in its last step.
  have kept {α : Type} {p : Program α} {f : α → Answer}
      (run : (p.bind fun a => .done (h, f a)).Yields t (h', answer)) :
      h' = h ∧ ∃ a, answer = f a := by
    obtain ⟨_, a, _, -, -, last⟩ := yields_bind_iff.1 run
    obtain ⟨-, same⟩ := yields_done_iff.1 last
    cases same
    exact ⟨rfl, a, rfl⟩
  cases operation with
  | read count =>
    obtain ⟨rfl, a, rfl⟩ := kept run
    exact .inl ⟨rfl, nofun, nofun, nofun, nofun⟩
  | write data =>
    obtain ⟨rfl, a, rfl⟩ := kept run
    exact .inl ⟨rfl, nofun, nofun, nofun, nofun⟩
  | flush =>
    obtain ⟨rfl, a, rfl⟩ := kept run
    exact .inl ⟨rfl, nofun, nofun, nofun, nofun⟩
  | cloneInput =>
    obtain ⟨rfl, a, rfl⟩ := kept run
    exact .inl ⟨rfl, nofun, nofun, nofun, nofun⟩
  | status =>
    obtain ⟨-, same⟩ := yields_done_iff.1 run
    cases same
    exact .inl ⟨rfl, nofun, nofun, nofun, nofun⟩
  | closeInput =>
    obtain ⟨t₁, ⟨_, closed⟩, _, rfl, first, last⟩ := yields_bind_iff.1 run
    obtain ⟨rfl, same⟩ := yields_done_iff.1 last
    cases same
    rw [List.append_nil]
    exact .inr (.inl ⟨rfl, closed, rfl, first⟩)
  | close =>
    obtain ⟨t₁, ⟨_, result⟩, _, rfl, first, last⟩ := yields_bind_iff.1 run
    obtain ⟨rfl, same⟩ := yields_done_iff.1 last
    cases same
    rw [List.append_nil]
    exact .inr (.inr ⟨rfl, result, rfl, first⟩)

/-! ### Episodes -/

namespace Episode

/-- What an episode does to the handle. -/
theorem fades (e : Episode) : e.before.Fades e.after := by
  rcases Handle.yields_perform_cases e.run with ⟨same, -⟩ | ⟨-, _, -, run⟩ | ⟨-, _, -, run⟩
  · rw [same]
    exact .refl _
  · exact Handle.fades_of_closeInput run
  · exact Handle.fades_of_close run

theorem yields_of_closeInput {e : Episode} (operation : e.operation = .closeInput) :
    ∃ closed, e.answer = .inputClosed closed ∧
      e.before.closeInput.Yields e.exchanges (e.after, closed) := by
  rcases Handle.yields_perform_cases e.run with ⟨-, other, -⟩ | ⟨-, run⟩ | ⟨other, -⟩
  · exact absurd operation other
  · exact run
  · cases operation.symm.trans other

theorem yields_of_close {e : Episode} (operation : e.operation = .close) :
    ∃ result, e.answer = .ended result ∧
      e.before.close.Yields e.exchanges (e.after, result) := by
  rcases Handle.yields_perform_cases e.run with ⟨-, -, other, -⟩ | ⟨other, -⟩ | ⟨-, run⟩
  · exact absurd operation other
  · cases operation.symm.trans other
  · exact run

theorem isClosed_of_close {e : Episode} (operation : e.operation = .close) :
    e.after.transport.input = .empty ∧ e.after.transport.output = .empty := by
  obtain ⟨_, -, run⟩ := yields_of_close operation
  obtain ⟨_, _, -, -, reaping⟩ := Handle.yields_close_iff.1 run
  rw [reaping.transport_eq]
  exact ⟨Transport.input_emptied _, Transport.output_emptied _⟩

/-- Only closing the input, while it is open, answers that a descriptor was closed. -/
theorem inputClosed_true {e : Episode} (answer : e.answer = .inputClosed true) :
    e.before.transport.input ≠ .empty ∧ e.after.transport.input = .empty := by
  rcases Handle.yields_perform_cases e.run with ⟨-, -, -, other, -⟩ | ⟨-, closed, given, run⟩ |
    ⟨-, _, other, -⟩
  · exact absurd answer (other true)
  · cases answer.symm.trans given
    rw [Handle.yields_closeInput_iff] at run
    split at run
    next input output pipes =>
      obtain ⟨-, after, closed⟩ := run
      rw [after, pipes]
      refine ⟨?_, rfl⟩
      rintro (rfl : input = .empty)
      cases closed
    next =>
      obtain ⟨-, -, closed⟩ := run
      cases closed
  · cases answer.symm.trans other

end Episode

/-! ### Lifetimes -/

namespace Lifetime

variable {h h' : Handle} {es : List Episode}

theorem fades (life : Lifetime h es h') : h.Fades h' := by
  induction life with
  | nil h => exact .refl h
  | cons e _ ih => exact e.fades.trans ih

/-- The end of a lifetime comes after each of its episodes. -/
theorem fades_after (life : Lifetime h es h') {e : Episode} (he : e ∈ es) : e.after.Fades h' := by
  induction life with
  | nil => cases he
  | cons _ life ih =>
    rcases List.mem_cons.1 he with rfl | he
    · exact life.fades
    · exact ih he

/-- After a close both directions are closed for good. -/
theorem eq_empty_of_close (life : Lifetime h es h') {e : Episode} (he : e ∈ es)
    (close : e.operation = .close) :
    h'.transport.input = .empty ∧ h'.transport.output = .empty := by
  obtain ⟨input, output⟩ := Episode.isClosed_of_close close
  have fades := life.fades_after he
  exact ⟨fades.input_eq_empty input, fades.output_eq_empty output⟩

/-- The beginning of a lifetime comes before each of its episodes. -/
theorem fades_before (life : Lifetime h es h') {e : Episode} (he : e ∈ es) :
    h.Fades e.before := by
  induction life with
  | nil => cases he
  | cons first _ ih =>
    rcases List.mem_cons.1 he with rfl | he
    · exact .refl _
    · exact first.fades.trans (ih he)

/-- What holds of any two episodes between which the handle fades holds of any two of a
lifetime. -/
theorem pairwise {R : Episode → Episode → Prop}
    (step : ∀ earlier later, earlier.after.Fades later.before → R earlier later)
    (life : Lifetime h es h') : es.Pairwise R := by
  induction life with
  | nil => exact .nil
  | cons earlier life ih =>
    exact .cons (fun later hlater => step earlier later (life.fades_before hlater)) ih

end Lifetime

/-! ### The laws -/

/-- The answer to a wait, if the exchange is one. -/
def Host.Exchange.waited? : Exchange → Option Handle.WaitAnswer
  | .reply (.wait _ _) answer => some answer
  | _ => none

/-- The input is closed: what would use it fails, and asks the host for nothing. -/
structure Handle.InputGone (h : Handle) : Prop where
  isClosed : h.transport.input.isClosed = true
  write : ∀ data, h.write data = pure (.error .closed)
  cloneInput : h.cloneInput = pure (.error .closed)

/-- The output is closed: reading from it fails, and asks the host for nothing. -/
structure Handle.OutputGone (h : Handle) : Prop where
  isClosed : h.transport.output.isClosed = true
  read : ∀ count, h.read count = pure (.error .closed)

theorem Handle.inputGone_of_eq_empty {h : Handle} (closed : h.transport.input = .empty) :
    h.InputGone := by
  have isClosed : h.transport.input.isClosed = true := Slot.isClosed_iff.2 closed
  exact ⟨isClosed, write_of_isClosed isClosed, cloneInput_of_isClosed isClosed⟩

theorem Handle.outputGone_of_eq_empty {h : Handle} (closed : h.transport.output = .empty) :
    h.OutputGone := by
  have isClosed : h.transport.output.isClosed = true := Slot.isClosed_iff.2 closed
  exact ⟨isClosed, read_of_isClosed isClosed⟩

/-- What a lifetime from `h` to `h'` by the episodes `es` keeps to.  The handle `h'` is that of any
moment, since a lifetime can end anywhere. -/
structure Lawful (h : Handle) (es : List Episode) (h' : Handle) : Prop where
  /-- A slot keeps its descriptor or is closed; one that is closed stays so. -/
  input : h'.transport.input = h.transport.input ∨ h'.transport.input = .empty
  output : h'.transport.output = h.transport.output ∨ h'.transport.output = .empty
  /-- After a close, whatever it answered, all slots are closed and nothing works any more. -/
  after_close : ∀ e ∈ es, e.operation = .close →
    h'.transport.isClosed = true ∧ h'.InputGone ∧ h'.OutputGone
  /-- After the input of pipes is closed, nothing that uses the input works any more; of the
  descriptors only that of the input was closed, and the output is what it was. -/
  after_closeInput : ∀ e ∈ es, e.operation = .closeInput → e.before.transport.isTerminal = false →
    h'.InputGone ∧ e.after.transport.output = e.before.transport.output ∧
      e.before.transport.input.Closing e.exchanges
  /-- Closing the input of a terminal does nothing at all. -/
  closeInput_of_isTerminal : ∀ e ∈ es, e.operation = .closeInput →
    e.before.transport.isTerminal = true →
    e.answer = .inputClosed false ∧ e.exchanges = [] ∧ e.after = e.before
  /-- That the input was closed is answered once at most, and never after a close. -/
  closeInput_once : es.Pairwise fun earlier later =>
    earlier.answer = .inputClosed true ∨ earlier.operation = .close →
      later.answer ≠ .inputClosed true
  /-- Only a close waits, only for the child, only while its status is not known, and only after
  every descriptor that was still open has been closed. -/
  asks_wait : ∀ operation t child block, (h'.perform operation).Asks t (.wait child block) →
    operation = .close ∧ h'.status = none ∧ child = some h'.pid ∧ block = true ∧
      t.filterMap Exchange.closed? = h'.transport.fds
  /-- However many answers are passed over, a close asks once more. -/
  asks_again : ∀ t skipped, h'.status = none → h'.transport.Closing t →
    (∀ answer ∈ skipped, Handle.verdict answer = none) →
    (h'.perform .close).Asks (t ++ h'.closedNote :: Handle.waits h'.pid skipped)
      (.wait (some h'.pid) true)
  /-- The first answer that decides is the result of the close. -/
  decided : ∀ e ∈ es, e.operation = .close → e.before.status = none →
    ∃ skipped last result, e.exchanges.filterMap Exchange.waited? = skipped ++ [last] ∧
      (∀ answer ∈ skipped, Handle.verdict answer = none) ∧
      Handle.verdict last = some result ∧ e.answer = .ended result
  /-- A status that a close has answered is known ever after, and is what each close answers. -/
  recorded : ∀ e ∈ es, ∀ s, e.answer = .ended (.ok s) →
    h'.status = some s ∧
      ∀ t h'' answer, (h'.perform .close).Yields t (h'', answer) → answer = .ended (.ok s)

/-! ### Waiting in a lifetime -/

namespace Handle

@[simp] theorem filterMap_waited?_waits (pid : Pid) (answers : List WaitAnswer) :
    (waits pid answers).filterMap Exchange.waited? = answers := by
  induction answers with
  | nil => rfl
  | cons answer answers ih => exact congrArg _ ih

/-- Nobody waits while a transport is closed. -/
theorem filterMap_waited?_of_closing {T : Transport} {t : List Exchange} (closing : T.Closing t) :
    t.filterMap Exchange.waited? = [] := by
  rw [List.filterMap_eq_nil_iff]
  intro x hx
  have run : (closeTransport T).Yields t T.emptied := yields_closeTransport_iff.2 ⟨closing, rfl⟩
  obtain ⟨c, r, rfl, notWait⟩ := run.forall_of_only
      (closeTransport_only T (P := fun c => ∀ child block, c ≠ .wait child block)
        nofun nofun nofun) x hx
  cases c with
  | wait child block => exact absurd rfl (notWait child block)
  | _ => rfl

/-- What an operation that is no close asks for. -/
theorem perform_only {P : Call → Prop} (h : Handle) {operation : Operation}
    (other : operation ≠ .close) (ofRead : ∀ fd count, P (.read fd count))
    (ofWrite : ∀ fd data, P (.write fd data))
    (ofDuplicate : ∀ fd least cloexec, P (.duplicate fd least cloexec))
    (ofClose : h.transport.isTerminal = false → ∀ fd, P (.close fd)) :
    (h.perform operation).Only P := by
  cases operation with
  | read count => exact (h.read_only ofRead count).bind fun _ => trivial
  | write data => exact (h.write_only ofWrite data).bind fun _ => trivial
  | flush => exact trivial
  | closeInput => exact (h.closeInput_only ofClose).bind fun _ => trivial
  | cloneInput => exact (h.cloneInput_only ofDuplicate).bind fun _ => trivial
  | close => exact absurd rfl other
  | status => exact trivial

theorem asks_wait_perform_iff {h : Handle} {operation : Operation} {t : List Exchange}
    {child : Option Pid} {block : Bool} :
    (h.perform operation).Asks t (.wait child block) ↔
      operation = .close ∧ h.close.Asks t (.wait child block) := by
  constructor
  · intro asks
    by_cases close : operation = .close
    · subst close
      rcases asks_bind_iff.1 asks with asks | ⟨_, _, _, -, -, rest⟩
      · exact ⟨rfl, asks⟩
      · exact absurd rest not_asks_done
    · have only : (h.perform operation).Only fun c => ∀ child block, c ≠ .wait child block :=
        perform_only h close nofun nofun nofun nofun
      exact absurd rfl (asks.of_only only child block)
  · rintro ⟨rfl, asks⟩
    exact asks.bind_left

/-- The answers to the waits of a close: all but the last are passed over. -/
theorem waited_of_close {h h' : Handle} {t : List Exchange} {result : Except Failure Status}
    (unknown : h.status = none) (run : h.close.Yields t (h', result)) :
    ∃ skipped last, t.filterMap Exchange.waited? = skipped ++ [last] ∧
      (∀ answer ∈ skipped, verdict answer = none) ∧ verdict last = some result := by
  obtain ⟨t₁, t₂, rfl, closing, reaping⟩ := yields_close_iff.1 run
  have waited : (t₁ ++ h.closedNote :: t₂).filterMap Exchange.waited? =
      t₂.filterMap Exchange.waited? := by
    rw [List.filterMap_append, filterMap_waited?_of_closing closing]
    rfl
  rw [waited]
  cases reaping with
  | known known => cases unknown.symm.trans known
  | failed _ passed decided => exact ⟨_, _, filterMap_waited?_waits _ _, passed, decided⟩
  | ended _ passed decided =>
    refine ⟨_, _, ?_, passed, decided⟩
    rw [List.filterMap_append, filterMap_waited?_waits]
    exact List.append_nil _

end Handle

/-! ### The laws hold -/

namespace Episode

/-- The status that an episode answers is known after it. -/
theorem status_of_ended {e : Episode} {s : Status} (answer : e.answer = .ended (.ok s)) :
    e.after.status = some s := by
  rcases Handle.yields_perform_cases e.run with ⟨-, -, -, -, other⟩ | ⟨-, _, other, -⟩ |
    ⟨-, result, given, run⟩
  · exact absurd answer (other _)
  · cases answer.symm.trans other
  · cases answer.symm.trans given
    obtain ⟨_, _, -, -, reaping⟩ := Handle.yields_close_iff.1 run
    exact reaping.status_eq

end Episode

/-- A close of a handle whose status is known answers that status. -/
theorem Handle.answer_of_known {h h' : Handle} {s : Status} {t : List Exchange} {answer : Answer}
    (known : h.status = some s) (run : (h.perform .close).Yields t (h', answer)) :
    answer = .ended (.ok s) := by
  rcases yields_perform_cases run with ⟨-, -, other, -⟩ | ⟨other, -⟩ | ⟨-, result, rfl, close⟩
  · exact absurd rfl other
  · cases other
  · obtain ⟨_, _, -, -, reaping⟩ := yields_close_iff.1 close
    cases reaping with
    | known known' =>
      cases known.symm.trans known'
      rfl
    | failed unknown => cases unknown.symm.trans known
    | ended unknown => cases unknown.symm.trans known

/-- **The laws of a handle.**  Every lifetime keeps to them, whatever handle it starts from, however
many operations it has and in whatever order, and whatever the host answers. -/
theorem Lifetime.lawful {h h' : Handle} {es : List Episode} (life : Lifetime h es h') :
    Lawful h es h' where
  input := life.fades.input
  output := life.fades.output
  after_close e he close := by
    obtain ⟨input, output⟩ := Episode.isClosed_of_close close
    have later := life.fades_after he
    have input' := later.input_eq_empty input
    have output' := later.output_eq_empty output
    exact ⟨Transport.isClosed_iff.2 ⟨input', output'⟩, Handle.inputGone_of_eq_empty input',
      Handle.outputGone_of_eq_empty output'⟩
  after_closeInput e he closeInput pipes := by
    obtain ⟨closed, -, run⟩ := Episode.yields_of_closeInput closeInput
    have later := life.fades_after he
    rw [Handle.yields_closeInput_iff] at run
    split at run
    next input output transport =>
      obtain ⟨closing, after, -⟩ := run
      rw [after] at later
      rw [after, transport]
      exact ⟨Handle.inputGone_of_eq_empty (later.input_eq_empty rfl), rfl, closing⟩
    next transport =>
      rw [transport] at pipes
      cases pipes
  closeInput_of_isTerminal e he closeInput terminal := by
    obtain ⟨closed, answer, run⟩ := Episode.yields_of_closeInput closeInput
    rw [Handle.yields_closeInput_iff] at run
    split at run
    next transport =>
      rw [transport] at terminal
      cases terminal
    next =>
      obtain ⟨exchanges, after, rfl⟩ := run
      exact ⟨answer, exchanges, after⟩
  closeInput_once := by
    refine life.pairwise fun earlier later fades hearlier again => ?_
    -- Either way the input is closed when the later episode begins.
    have closed : earlier.after.transport.input = .empty := by
      rcases hearlier with answer | close
      · exact (Episode.inputClosed_true answer).2
      · exact (Episode.isClosed_of_close close).1
    exact (Episode.inputClosed_true again).1 (fades.input_eq_empty closed)
  asks_wait operation t child block asks := by
    obtain ⟨close, asks⟩ := Handle.asks_wait_perform_iff.1 asks
    obtain ⟨unknown, ofChild, blocks, t₁, skipped, rfl, closing, -⟩ :=
      Handle.asks_wait_close_iff.1 asks
    refine ⟨close, unknown, ofChild, blocks, ?_⟩
    rw [List.filterMap_append, closing.filterMap_closed?]
    have rest : (h'.closedNote :: Handle.waits h'.pid skipped).filterMap Exchange.closed? = [] :=
      Handle.filterMap_closed?_waits _ _
    rw [rest, List.append_nil]
  asks_again t skipped unknown closing passed :=
    Handle.asks_wait_perform_iff.2 ⟨rfl, Handle.asks_wait_close_iff.2
      ⟨unknown, rfl, rfl, t, skipped, rfl, closing, passed⟩⟩
  decided e _ close unknown := by
    obtain ⟨result, answer, run⟩ := Episode.yields_of_close close
    obtain ⟨skipped, last, waited, passed, decided⟩ := Handle.waited_of_close unknown run
    exact ⟨skipped, last, result, waited, passed, decided, answer⟩
  recorded e he s answer := by
    have known := (life.fades_after he).status s (e.status_of_ended answer)
    exact ⟨known, fun t h'' answer run => Handle.answer_of_known known run⟩

/-- A handle over pipes whose input is closed first, whose first close fails to wait, and whose
second is interrupted and told of a stop before the child exits. -/
theorem Lifetime.lawful_of_failed_wait :
    ∃ es h', Lifetime ⟨7, .pipes (.holding 5) (.holding 6), none⟩ es h' ∧
      es.map Episode.answer = [.inputClosed true, .written (.error .closed),
        .ended (.error (.system "waitpid" .ECHILD)), .ended (.ok (.exited 3)),
        .status (some (.exited 3))] ∧
      Lawful ⟨7, .pipes (.holding 5) (.holding 6), none⟩ es h' := by
  let h₀ : Handle := ⟨7, .pipes (.holding 5) (.holding 6), none⟩
  let h₁ : Handle := ⟨7, .pipes .empty (.holding 6), none⟩
  let h₂ : Handle := ⟨7, .pipes .empty .empty, none⟩
  let h₃ : Handle := ⟨7, .pipes .empty .empty, some (.exited 3)⟩
  have input : (h₀.perform .closeInput).Yields [.reply (.close 5) (.ok ())]
      (h₁, .inputClosed true) := .call (.done _)
  have write : (h₁.perform (.write [0x61])).Yields [] (h₁, .written (.error .closed)) := .done _
  have failed : h₁.close.Yields ([.reply (.close 6) (.error .EIO)] ++ h₁.closedNote ::
      Handle.waits 7 ([] ++ [.error .ECHILD])) (h₂, .error (.system "waitpid" .ECHILD)) :=
    Handle.yields_close_iff.2 ⟨_, _, rfl, ⟨[], _, rfl, rfl, _, rfl⟩, .failed rfl nofun (by decide)⟩
  have ended : h₂.close.Yields ([] ++ h₂.closedNote :: (Handle.waits 7
      ([.error .EINTR, .ok (7, .stopped 19)] ++ [.ok (7, .exited 3)]) ++
        [.reply (.log (.waited 7 (.exited 3))) ()])) (h₃, .ok (.exited 3)) :=
    Handle.yields_close_iff.2 ⟨_, _, rfl, ⟨[], _, rfl, rfl, rfl⟩, .ended rfl (by decide) rfl⟩
  have life : Lifetime h₀ _ h₃ :=
    .cons ⟨h₀, .closeInput, _, _, h₁, input⟩ (.cons ⟨h₁, .write _, _, _, h₁, write⟩
      (.cons ⟨h₁, .close, _, _, h₂, failed.bind (.done _)⟩
        (.cons ⟨h₂, .close, _, _, h₃, ended.bind (.done _)⟩
          (.cons ⟨h₃, .status, [], _, h₃, .done _⟩ (.nil h₃)))))
  exact ⟨_, h₃, life, rfl, life.lawful⟩

end Coprocess
