import Coprocess.Proofs.Reaping
import Coprocess.Proofs.Relaying

/-!
# What is told of a handle

`events` are what is told in a trace, in order.  Of a handle, nothing but a close and the end tells
anything, and what they tell depends on two things only: whether the terminal is still open, which
the first close ends, and whether the status is known, which the first close that succeeds makes so
(`Episode.events_eq`, `Handle.events_of_drop`).  Both last, and so over a lifetime a failed release
is told of at most once (`Lifetime.pairwise_isReleaseFailure`) and the end of the child exactly once
(`Lifetime.filter_isEnd`).
-/

namespace Coprocess

open Host Program

variable {t : List Exchange}

/-! ### Kinds of events -/

namespace Event

/-- Told before there is a coprocess: of the search for a name, and of a terminal. -/
def isPreparatory : Event → Bool
  | candidateSkipped .. => true
  | candidatesResolved .. => true
  | terminalAllocated _ => true
  | _ => false

/-- Told of a coprocess that was started. -/
def isOpening : Event → Bool
  | openedPiped .. => true
  | openedTerminal .. => true
  | _ => false

/-- Told of a coprocess whose descriptors are all closed. -/
def isClosing : Event → Bool
  | descriptorsClosed _ => true
  | _ => false

/-- Told of what becomes of the child: it was reaped, or nobody is going to reap it. -/
def isEnd : Event → Bool
  | waited .. => true
  | droppedUnreaped _ => true
  | _ => false

/-- Told of a slave that could not be released. -/
def isReleaseFailure : Event → Bool
  | releaseFailed .. => true
  | _ => false

/-- Told by an allocator. -/
def isAllocators : Event → Bool
  | terminalAllocated _ => true
  | terminalReleased _ => true
  | _ => false

/-- Told of a handle: that its slave is or is not released, that its descriptors are closed, or what
becomes of the child. -/
def isOfHandle (e : Event) : Bool :=
  e.isClosing || e.isEnd || e.isReleaseFailure ||
    match e with
    | terminalReleased _ => true
    | _ => false

/-- What is told before there is a coprocess is not told of one. -/
theorem isOfHandle_of_isPreparatory {e : Event} (h : e.isPreparatory = true) :
    e.isOpening = false ∧ e.isOfHandle = false := by
  cases e <;> first | exact ⟨rfl, rfl⟩ | cases h

theorem isOfHandle_of_isOpening {e : Event} (h : e.isOpening = true) : e.isOfHandle = false := by
  cases e <;> first | rfl | cases h

theorem kinds_of_isOfHandle {e : Event} (h : e.isOfHandle = false) :
    e.isClosing = false ∧ e.isEnd = false ∧ e.isReleaseFailure = false := by
  simp only [isOfHandle, Bool.or_eq_false_iff] at h
  exact ⟨h.1.1.1, h.1.1.2, h.1.2⟩

/-- What an allocator tells is none of the engine's words on a coprocess. -/
theorem kinds_of_isAllocators {e : Event} (h : e.isAllocators = true) :
    e.isClosing = false ∧ e.isEnd = false ∧ e.isReleaseFailure = false := by
  cases e <;> first | exact ⟨rfl, rfl, rfl⟩ | cases h

end Event

/-! ### The events of a trace -/

/-- The event that an exchange tells of, if it tells of one. -/
def Host.Exchange.event? : Exchange → Option Event
  | .reply (.log e) _ => some e
  | _ => none

/-- The events that are told of in a trace. -/
def events (t : List Exchange) : List Event := t.filterMap Exchange.event?

@[simp] theorem events_nil : events [] = [] := rfl

@[simp] theorem events_append (t₁ t₂ : List Exchange) :
    events (t₁ ++ t₂) = events t₁ ++ events t₂ :=
  List.filterMap_append

theorem events_cons (x : Exchange) (t : List Exchange) :
    events (x :: t) = events [x] ++ events t :=
  events_append [x] t

@[simp] theorem events_log (e : Event) (t : List Exchange) :
    events (.reply (.log e) () :: t) = e :: events t := rfl

theorem events_flatMap (es : List Episode) :
    events (es.flatMap Episode.exchanges) = es.flatMap fun e => events e.exchanges :=
  List.filterMap_flatMap

/-- All that an exchange tells, or an allocator in its place, satisfies `P`. -/
def Host.Exchange.TellsOnly (P : Event → Prop) : Exchange → Prop
  | .reply (.log e) _ => P e
  | .reply (.acquireTerminal _ _) _ => ∀ slaveName, P (.terminalAllocated slaveName)
  | .reply (.releaseTerminal _) _ => ∀ slaveName, P (.terminalReleased slaveName)
  | _ => True

theorem forall_events_of_tellsOnly {P : Event → Prop} (only : ∀ x ∈ t, x.TellsOnly P) :
    ∀ event ∈ events t, P event := by
  intro event told
  obtain ⟨x, hx, tells⟩ := List.mem_filterMap.1 told
  have := only x hx
  unfold Exchange.event? at tells
  split at tells
  · cases tells
    exact this
  · cases tells

/-- What the requests of a program can tell is all that is told in its runs. -/
theorem tellsOnly_of_only {α : Type} {P : Event → Prop} {p : Program α} {a : α}
    (run : p.Yields t a) (only : p.Only fun c => ∀ r, (Exchange.reply c r).TellsOnly P) :
    ∀ x ∈ t, x.TellsOnly P := by
  intro x hx
  obtain ⟨_, r, rfl, tells⟩ := run.forall_of_only only x hx
  exact tells r

/-- What a program can ask to be logged is all that it tells of. -/
theorem forall_events_of_only {α : Type} {P : Event → Prop} {p : Program α} {a : α}
    (run : p.Yields t a) (only : p.Only fun c => ∀ e, c = .log e → P e) :
    ∀ event ∈ events t, P event := by
  intro event told
  obtain ⟨x, hx, tells⟩ := List.mem_filterMap.1 told
  obtain ⟨c, r, rfl, logs⟩ := run.forall_of_only only x hx
  unfold Exchange.event? at tells
  split at tells
  next same =>
    cases same
    cases tells
    exact logs _ rfl
  · cases tells

theorem events_eq_nil_of_only {α : Type} {p : Program α} {a : α} (run : p.Yields t a)
    (only : p.Only fun c => ∀ e, c = .log e → False) : events t = [] :=
  List.eq_nil_iff_forall_not_mem.2 (forall_events_of_only run only)

/-! ### What a handle tells -/

namespace Handle

/-- Waiting tells of nothing. -/
@[simp] theorem events_waits (pid : Pid) (answers : List WaitAnswer) :
    events (waits pid answers) = [] := by
  induction answers with
  | nil => rfl
  | cons answer answers ih => exact ih

/-- Closing a transport tells of a release that fails, and of nothing else; it cannot fail once the
transport is closed. -/
theorem events_of_closing {T : Transport} (closing : T.Closing t) :
    events t = [] ∨ T.isClosed = false ∧
      ∃ slaveName reason, events t = [.releaseFailed .lifecycle slaveName reason] := by
  have silent {s : Slot} {t : List Exchange} (closing : s.Closing t) : events t = [] :=
    events_eq_nil_of_only (Slot.yields_close_iff.2 ⟨closing, rfl, rfl⟩) (s.close_only nofun)
  cases T with
  | pipes input output =>
    obtain ⟨t₁, t₂, rfl, first, second⟩ := closing
    exact .inl (by rw [events_append, silent first, silent second, List.append_nil])
  | terminal master slaveName =>
    rw [Transport.Closing] at closing
    split at closing
    · exact .inl (by rw [closing, events_nil])
    next still =>
      obtain ⟨t₁, t₂, rfl, releasing, second⟩ := closing
      rw [events_append, silent second, List.append_nil]
      rcases releasing with ⟨_, rfl⟩ | ⟨reason, rfl⟩
      · exact .inl rfl
      · exact .inr ⟨Bool.eq_false_iff.2 still, slaveName, _, rfl⟩

/-- The second half of a close tells of the end of the child, if that is learned. -/
theorem Reaping.events_eq {h h' : Handle} {result : Except Failure Status}
    (reaping : h.Reaping t h' result) :
    events t = if h.status.isSome then [] else h'.status.toList.map (.waited h.pid) := by
  cases reaping with
  | known known => simp [known]
  | failed unknown => simp [unknown]
  | ended unknown => simp [unknown]

/-- The second half of a close closes nothing. -/
theorem Reaping.filterMap_closed? {h h' : Handle} {result : Except Failure Status}
    (reaping : h.Reaping t h' result) : t.filterMap Exchange.closed? = [] := by
  cases reaping with
  | known => rfl
  | failed => exact filterMap_closed?_waits _ _
  | ended =>
    rw [List.filterMap_append, filterMap_closed?_waits]
    rfl

/-- A close that fails leaves the handle as it is once its descriptors are closed. -/
theorem Reaping.eq_of_error {h h' : Handle} {reason : Failure}
    (reaping : h.Reaping t h' (.error reason)) : h' = h := by
  cases reaping
  rfl

/-- Giving a handle up tells that nobody reaps the child, unless its end is known. -/
theorem events_of_drop {h : Handle} {u : Unit} (run : h.drop.Yields t u) :
    events t = if h.status.isSome then [] else [.droppedUnreaped h.pid] := by
  obtain ⟨t', rfl, dropping⟩ := yields_drop_iff.1 run
  have silent : events t' = [] :=
    events_eq_nil_of_only (yields_dropTransport_iff.2 dropping : (dropTransport _).Yields t' ())
      (dropTransport_only _ nofun)
  rw [events_append, silent, List.append_nil, droppedNote]
  cases h.status <;> rfl

theorem tellsOnly_of_drop {h : Handle} {u : Unit} (run : h.drop.Yields t u) :
    ∀ x ∈ t, x.TellsOnly (·.isAllocators = false) :=
  tellsOnly_of_only run (h.drop_only (fun _ _ => trivial) fun _ => rfl)

end Handle

/-! ### What an episode tells -/

namespace Episode

/-- Whether the episode is a close. -/
def isClose (e : Episode) : Bool :=
  match e.operation with
  | .close => true
  | _ => false

theorem isClose_iff {e : Episode} : e.isClose = true ↔ e.operation = .close := by
  unfold isClose
  cases e.operation <;> simp

/-- An operation that is no close tells of nothing. -/
theorem events_of_other {e : Episode} (other : e.operation ≠ .close) : events e.exchanges = [] :=
  events_eq_nil_of_only e.run
    (Handle.perform_only _ other nofun nofun nofun fun _ => nofun)

/-- **What an episode tells of**: a release that fails, while there is something to release; if it
is a close, that the descriptors are closed; and the end of the child, if that is learned. -/
theorem events_eq (e : Episode) :
    ∃ failures, (failures = [] ∨ e.before.transport.isClosed = false ∧
        ∃ slaveName reason, failures = [.releaseFailed .lifecycle slaveName reason]) ∧
      events e.exchanges =
        failures ++ List.replicate (if e.isClose then 1 else 0) (.descriptorsClosed e.before.pid) ++
          if e.before.status.isSome then []
          else e.after.status.toList.map (.waited e.before.pid) := by
  by_cases close : e.operation = .close
  · obtain ⟨_, -, run⟩ := yields_of_close close
    obtain ⟨t₁, t₂, exchanges, closing, reaping⟩ := Handle.yields_close_iff.1 run
    have learned : events t₂ = if e.before.status.isSome then []
        else e.after.status.toList.map (.waited e.before.pid) := reaping.events_eq
    refine ⟨events t₁, Handle.events_of_closing closing, ?_⟩
    rw [exchanges, events_append, Handle.closedNote, events_log, learned,
      if_pos (isClose_iff.2 close), List.append_assoc]
    rfl
  · refine ⟨[], .inl rfl, ?_⟩
    rw [events_of_other close, if_neg (mt isClose_iff.1 close), Handle.status_of_other close e.run]
    cases e.before.status <;> rfl

/-- A close tells once that the descriptors are closed, and nothing else does. -/
theorem filter_isClosing (e : Episode) :
    (events e.exchanges).filter Event.isClosing =
      List.replicate (if e.isClose then 1 else 0) (.descriptorsClosed e.before.pid) := by
  obtain ⟨_, rfl | ⟨-, _, _, rfl⟩, told⟩ := e.events_eq <;> rw [told] <;>
    cases e.isClose <;> cases e.before.status <;> cases e.after.status <;> rfl

/-- The end of the child is told of by the episode that learns it. -/
theorem filter_isEnd (e : Episode) :
    (events e.exchanges).filter Event.isEnd =
      if e.before.status.isSome then [] else e.after.status.toList.map (.waited e.before.pid) := by
  obtain ⟨_, rfl | ⟨-, _, _, rfl⟩, told⟩ := e.events_eq <;> rw [told] <;>
    cases e.isClose <;> cases e.before.status <;> cases e.after.status <;> rfl

theorem isOfHandle_of_mem (e : Episode) :
    ∀ event ∈ events e.exchanges, event.isOfHandle = true ∧ event.isAllocators = false := by
  obtain ⟨_, rfl | ⟨-, _, _, rfl⟩, told⟩ := e.events_eq <;> rw [told] <;>
    cases e.isClose <;> cases e.before.status <;> cases e.after.status <;>
      simp [Event.isOfHandle, Event.isClosing, Event.isEnd, Event.isReleaseFailure,
        Event.isAllocators]

/-- A release can fail only while there is something to release. -/
theorem isReleaseFailure_of_isClosed {e : Episode} (closed : e.before.transport.isClosed = true) :
    ∀ event ∈ events e.exchanges, event.isReleaseFailure = false := by
  obtain ⟨_, rfl | ⟨still, -⟩, told⟩ := e.events_eq
  · rw [told]
    cases e.isClose <;> cases e.before.status <;> cases e.after.status <;>
      simp [Event.isReleaseFailure]
  · cases closed.symm.trans still

theorem pairwise_isReleaseFailure (e : Episode) :
    (events e.exchanges).Pairwise fun earlier later =>
      later.isReleaseFailure = true →
        earlier.isReleaseFailure = false ∧ earlier.isClosing = false := by
  obtain ⟨_, rfl | ⟨-, _, _, rfl⟩, told⟩ := e.events_eq <;> rw [told] <;>
    cases e.isClose <;> cases e.before.status <;> cases e.after.status <;>
      simp [Event.isReleaseFailure]

/-- What a close passes with the host, before and after it tells that the descriptors are closed. -/
theorem each_closed {e : Episode} (close : e.operation = .close) :
    ∃ t₁ t₂, e.exchanges = t₁ ++ e.before.closedNote :: t₂ ∧
      t₁.filterMap Exchange.closed? = e.before.transport.fds ∧
      t₂.filterMap Exchange.closed? = [] ∧
      (∀ event ∈ events t₁, event.isReleaseFailure = true) ∧
      ∀ event ∈ events t₂, event.isEnd = true := by
  obtain ⟨_, -, run⟩ := yields_of_close close
  obtain ⟨t₁, t₂, exchanges, closing, reaping⟩ := Handle.yields_close_iff.1 run
  refine ⟨t₁, t₂, exchanges, closing.filterMap_closed?, reaping.filterMap_closed?, ?_, ?_⟩
  · rcases Handle.events_of_closing closing with nothing | ⟨-, _, _, failed⟩
    · rw [nothing]
      nofun
    · rw [failed]
      simp [Event.isReleaseFailure]
  · rw [reaping.events_eq]
    split
    · nofun
    · intro event told
      obtain ⟨_, -, rfl⟩ := List.mem_map.1 told
      rfl

/-- Only a close that succeeds learns the status. -/
theorem status_eq_of_unended {e : Episode} (unended : ∀ s, e.answer ≠ .ended (.ok s)) :
    e.after.status = e.before.status := by
  by_cases close : e.operation = .close
  · obtain ⟨result, answer, run⟩ := yields_of_close close
    obtain ⟨_, _, -, -, reaping⟩ := Handle.yields_close_iff.1 run
    cases result with
    | ok s => exact absurd answer (unended s)
    | error reason => rw [reaping.eq_of_error, Handle.emptied]
  · exact Handle.status_of_other close e.run

theorem answer_of_status {e : Episode} (status : e.operation = .status) :
    e.answer = .status e.before.status := by
  obtain ⟨before, operation, t, answer, after, run⟩ := e
  cases status
  cases (yields_done_iff.1 run).2
  rfl

/-- Nobody asks for a terminal once a handle is there. -/
theorem asks_no_terminal (e : Episode) :
    ∀ x ∈ e.exchanges, ∃ c r, x = .reply c r ∧ ∀ modes size, c ≠ .acquireTerminal modes size := by
  by_cases close : e.operation = .close
  · obtain ⟨_, -, run⟩ := yields_of_close close
    refine run.forall_of_only (e.before.close_only ?_ ?_ ?_ ?_) <;> intros <;> simp
  · exact e.run.forall_of_only
      (Handle.perform_only _ close nofun nofun nofun fun _ => nofun)

theorem tellsOnly (e : Episode) : ∀ x ∈ e.exchanges, x.TellsOnly (·.isOfHandle = true) := by
  intro x hx
  obtain ⟨c, r, rfl, other⟩ := e.asks_no_terminal x hx
  unfold Exchange.TellsOnly
  split
  next same =>
    cases same
    exact (e.isOfHandle_of_mem _ (List.mem_filterMap.2 ⟨_, hx, rfl⟩)).1
  next same =>
    cases same
    exact absurd rfl (other _ _)
  · exact fun _ => rfl
  · trivial

end Episode

/-! ### What a lifetime tells -/

namespace Lifetime

variable {h h' : Handle} {es : List Episode}

/-- Each close tells once that the descriptors are closed. -/
theorem filter_isClosing (life : Lifetime h es h') :
    (events (es.flatMap Episode.exchanges)).filter Event.isClosing =
      List.replicate (es.countP Episode.isClose) (.descriptorsClosed h.pid) := by
  induction life with
  | nil => rfl
  | cons e life ih =>
    rw [List.flatMap_cons, events_append, List.filter_append, ih, e.fades.pid, e.filter_isClosing,
      List.replicate_append_replicate, List.countP_cons, Nat.add_comm]

/-- The end of the child is told of once, if it is learned. -/
theorem filter_isEnd (life : Lifetime h es h') :
    (events (es.flatMap Episode.exchanges)).filter Event.isEnd =
      if h.status.isSome then [] else h'.status.toList.map (.waited h.pid) := by
  induction life with
  | nil h => cases known : h.status <;> simp
  | @cons e es h' life ih =>
    rw [List.flatMap_cons, events_append, List.filter_append, ih, e.fades.pid, e.filter_isEnd]
    cases known : e.after.status with
    | none =>
      cases before : e.before.status with
      | none => simp
      | some s => cases known.symm.trans (e.fades.status s before)
    | some s =>
      simp [life.fades.status s known]

/-- Nothing is told but what the engine tells of a handle. -/
theorem isOfHandle_of_mem : ∀ event ∈ events (es.flatMap Episode.exchanges),
    event.isOfHandle = true ∧ event.isAllocators = false := by
  rw [events_flatMap]
  intro event mem
  obtain ⟨e, -, told⟩ := List.mem_flatMap.1 mem
  exact e.isOfHandle_of_mem event told

theorem tellsOnly (es : List Episode) :
    ∀ x ∈ es.flatMap Episode.exchanges, x.TellsOnly (·.isOfHandle = true) := by
  intro x hx
  obtain ⟨e, -, mem⟩ := List.mem_flatMap.1 hx
  exact e.tellsOnly x mem

/-- Once all descriptors are closed, no release fails any more. -/
theorem isReleaseFailure_of_isClosed (life : Lifetime h es h')
    (closed : h.transport.isClosed = true) :
    ∀ event ∈ events (es.flatMap Episode.exchanges), event.isReleaseFailure = false := by
  rw [events_flatMap]
  intro event mem
  obtain ⟨e, he, told⟩ := List.mem_flatMap.1 mem
  obtain ⟨input, output⟩ := Transport.isClosed_iff.1 closed
  have before := life.fades_before he
  refine Episode.isReleaseFailure_of_isClosed ?_ event told
  exact Transport.isClosed_iff.2 ⟨before.input_eq_empty input, before.output_eq_empty output⟩

/-- A release fails at most once, and before any word of descriptors that are closed: up to the
first close nothing is told, and from then on there is nothing to release. -/
theorem pairwise_isReleaseFailure (life : Lifetime h es h') :
    (events (es.flatMap Episode.exchanges)).Pairwise fun earlier later =>
      later.isReleaseFailure = true →
        earlier.isReleaseFailure = false ∧ earlier.isClosing = false := by
  induction life with
  | nil => exact .nil
  | cons e life ih =>
    rw [List.flatMap_cons, events_append]
    by_cases close : e.operation = .close
    · have closed := Transport.isClosed_iff.2 (Episode.isClosed_of_close close)
      refine List.pairwise_append.2 ⟨e.pairwise_isReleaseFailure, ih, ?_⟩
      intro earlier _ later told failed
      cases failed.symm.trans (life.isReleaseFailure_of_isClosed closed later told)
    · rw [Episode.events_of_other close]
      exact ih

/-- If no close succeeds, the status is not learned. -/
theorem status_eq_of_unended (life : Lifetime h es h')
    (unended : ∀ e ∈ es, ∀ s, e.answer ≠ .ended (.ok s)) : h'.status = h.status := by
  induction life with
  | nil => rfl
  | cons e life ih =>
    rw [List.forall_mem_cons] at unended
    rw [ih unended.2, Episode.status_eq_of_unended unended.1]

/-- The episodes before one lead to the handle that it begins with, and those after it go on from
the handle that it leaves. -/
theorem exists_of_append {es₁ es₂ : List Episode} {e : Episode}
    (life : Lifetime h (es₁ ++ e :: es₂) h') :
    Lifetime h es₁ e.before ∧ Lifetime e.after es₂ h' := by
  induction es₁ generalizing h with
  | nil =>
    cases life with
    | cons _ rest => exact ⟨.nil _, rest⟩
  | cons first es₁ ih =>
    cases life with
    | cons _ rest =>
      obtain ⟨earlier, later⟩ := ih rest
      exact ⟨.cons first earlier, later⟩

/-- What a close answers is what is answered ever after. -/
theorem answer_of_ended (life : Lifetime h es h') {s : Status} (known : h.status = some s) :
    ∀ e ∈ es, (e.operation = .close → e.answer = .ended (.ok s)) ∧
      (e.operation = .status → e.answer = .status (some s)) := by
  intro e he
  have before := (life.fades_before he).status s known
  constructor
  · intro close
    have run := e.run
    rw [close] at run
    exact Handle.answer_of_known before run
  · intro status
    rw [Episode.answer_of_status status, before]

end Lifetime

end Coprocess
