import Coprocess.Proofs.Buffering
import Coprocess.Proofs.Relaying
import Coprocess.Proofs.Release

/-!
# Handles that are given up

Over a terminal a close releases the slave before it closes the master.  Giving a handle up closes
the master as well, but releases nothing, so that a slave whose handle is never closed is not
released at all.  A relay gives its handle up after a close, except when the input cannot be
duplicated or the thread for it is refused.

`ReleasedByClose` lists how the handle of a terminal can come to its end, and the main statement,
`Launcher.releasedByClose`, is that it holds of every handle that is launched.
-/

namespace Coprocess

open Host Program

variable {t : List Exchange}

/-! ### Deeds of giving up -/

theorem Slot.Closing.deeds_eq {s : Slot} (closing : s.Closing t) :
    deeds t = s.fd.toList.map .closed := by
  rcases s with ⟨_ | fd⟩
  · cases closing
    rfl
  · obtain ⟨r, rfl⟩ := closing
    rfl

/-- A handle that is given up closes what it still holds, and releases nothing. -/
theorem Handle.Dropping.deeds_eq {h : Handle} (dropping : h.Dropping t) :
    deeds t = h.transport.fds.map .closed := by
  obtain ⟨t', rfl, closing⟩ := dropping
  have note : deeds h.droppedNote = [] := by
    rw [droppedNote]
    split <;> rfl
  rw [deeds_append, note, List.nil_append]
  rcases h with ⟨pid, ⟨input, output⟩ | ⟨master, slaveName⟩, status⟩
  · obtain ⟨t₁, t₂, rfl, first, second⟩ := closing
    rw [deeds_append, first.deeds_eq, second.deeds_eq, Transport.fds, List.map_append]
  · exact Slot.Closing.deeds_eq closing

theorem FrontEnd.deeds_of_copy {h : Handle} {r : Except SystemError Unit × LineBuffer}
    (run : (Transfer.copy h.read LineBuffer.put {}).Yields t r) : deeds t = [] := by
  refine deeds_eq_nil_of_only run (Transfer.copy_only ?_ ?_ _)
  · intro count
    exact h.read_only (fun _ _ _ => rfl) count
  · intro b data
    exact LineBuffer.put_only (fun _ _ => rfl) b data

/-! ### The end of a terminal's handle -/

theorem Transport.fds_eq_nil {T : Transport} (closed : T.input = .empty ∧ T.output = .empty) :
    T.fds = [] := by
  obtain ⟨input, output⟩ := closed
  cases T with
  | pipes =>
    cases input
    cases output
    rfl
  | terminal =>
    cases input
    rfl

/-- The handle of a terminal is what it was until it is closed. -/
theorem Lifetime.eq_of_unclosed {h h' : Handle} {es : List Episode} (life : Lifetime h es h')
    (terminal : h.transport.isTerminal = true) (unclosed : ∀ e ∈ es, e.operation ≠ .close) :
    h' = h := by
  induction life with
  | nil => rfl
  | cons e life ih =>
    rw [List.forall_mem_cons] at unclosed
    obtain ⟨-, same⟩ := Episode.deeds_of_other unclosed.1 terminal
    rw [ih (same ▸ terminal) unclosed.2, same]

/-- A close of a terminal's handle releases the slave and closes the master, and leaves nothing to
give up. -/
theorem Handle.deeds_of_close {h h' : Handle} {master : Fd} {slaveName : String}
    {result : Except Failure Status} (run : h.close.Yields t (h', result))
    (terminal : h.transport = .terminal (.holding master) slaveName) :
    deeds t = [.released slaveName, .closed master] ∧ h'.transport.fds = [] := by
  have episode : (h.perform .close).Yields t (h', .ended result) := by
    rw [← List.append_nil t]
    exact run.bind (.done _)
  obtain ⟨after, deeds⟩ := Episode.deeds_of_close (e := ⟨h, _, t, _, h', episode⟩) rfl terminal
  refine ⟨deeds, ?_⟩
  rw [after]
  rfl

/-- A relay over a terminal releases the slave before it closes the master, unless the input cannot
be duplicated, or the thread is refused that is to forward it. -/
theorem FrontEnd.Relayed.deeds_eq {h : Handle} {master : Fd} {slaveName : String}
    {result : Option (Except RelayError Status)} {buffer : LineBuffer}
    (relayed : Relayed h t result buffer)
    (terminal : h.transport = .terminal (.holding master) slaveName) :
    (∃ reason, result = some (.error (.input reason)) ∧ deeds t = [.closed master]) ∨
    (result = none ∧ ∃ input, deeds t = [.closed input, .closed master]) ∨
    (result ≠ none ∧ (∀ reason, result ≠ some (.error (.input reason))) ∧
      deeds t = [.released slaveName, .closed master]) := by
  have duplicating {t : List Exchange} {r : Except SystemError Fd}
      (run : h.cloneInput.Yields t r) : deeds t = [] :=
    deeds_eq_nil_of_only run (h.cloneInput_only fun _ _ _ _ => rfl)
  have beside (thread : Program Unit) (r : Except Errno Unit) (t : List Exchange) :
      deeds (.spawn thread r :: t) = deeds t := rfl
  cases relayed with
  | refused cloned dropped =>
    refine .inl ⟨_, rfl, ?_⟩
    rw [deeds_append, duplicating cloned, dropped.deeds_eq, terminal]
    rfl
  | @panicked input h₁ _ _ closed _ _ _ _ cloned inputClosed notes dropped =>
    have kept := Handle.yields_closeInput_iff.1 inputClosed
    rw [terminal] at kept
    obtain ⟨rfl, rfl, -⟩ := kept
    have noting := deeds_eq_nil_of_only notes (panicNote_only (fun _ _ => rfl) _)
    have letGo (t : List Exchange) :
        deeds (.reply (.close input) closed :: t) = .closed input :: deeds t := rfl
    refine .inr (.inl ⟨rfl, input, ?_⟩)
    rw [deeds_append, deeds_append, duplicating cloned, beside, letGo, deeds_append, noting,
      dropped.deeds_eq, terminal]
    rfl
  | @finished _ h₁ h₂ _ copied closed _ cloning _ copying closing _ cloned inputClosed copies closes
      dropped =>
    have kept := Handle.yields_closeInput_iff.1 inputClosed
    rw [terminal] at kept
    obtain ⟨rfl, rfl, -⟩ := kept
    obtain ⟨released, nothing⟩ := Handle.deeds_of_close closes terminal
    refine .inr (.inr ⟨nofun, ?_, ?_⟩)
    · intro reason
      rw [Ne, Option.some.injEq]
      unfold outcome
      split
      · nofun
      · nofun
      · split <;> nofun
    · have note : deeds (doneNote closed) = [] := by
        cases closed <;> rfl
      rw [deeds_append, deeds_append, duplicating cloned, beside, deeds_append, deeds_append,
        deeds_append, deeds_of_copy copies, released, note, dropped.deeds_eq, nothing]
      rfl

/-! ### The main statement -/

/-- How the handle of a terminal, launched with a pair, can come to its end: the slave is released,
before the master is closed, if and only if the handle is closed. -/
structure ReleasedByClose (pair : TerminalPair) (h : Handle) : Prop where
  /-- The handle is closed, however often, before it is given up. -/
  closed : ∀ es h' u v, Lifetime h es h' → h'.drop.Yields u v → (∃ e ∈ es, e.operation = .close) →
    deeds (es.flatMap Episode.exchanges ++ u) = [.released pair.slaveName, .closed pair.master]
  /-- The handle is given up without having been closed. -/
  unclosed : ∀ es h' u v, Lifetime h es h' → h'.drop.Yields u v →
    (∀ e ∈ es, e.operation ≠ .close) →
    deeds (es.flatMap Episode.exchanges ++ u) = [.closed pair.master]
  /-- A relay closes the handle before it gives it up, unless the input cannot be duplicated, or the
  thread is refused and the duplicate is closed again. -/
  relayed : ∀ u result buffer, (FrontEnd.relay h).Yields u (result, buffer) →
    (∃ reason, result = some (.error (.input reason)) ∧ deeds u = [.closed pair.master]) ∨
    (result = none ∧ ∃ input, deeds u = [.closed input, .closed pair.master]) ∨
    (result ≠ none ∧ (∀ reason, result ≠ some (.error (.input reason))) ∧
      deeds u = [.released pair.slaveName, .closed pair.master])

/-- **A slave is released by a close only.**  A launch on a terminal that succeeds has released
nothing and keeps the master, and what becomes of the two depends on whether the handle is ever
closed. -/
theorem Launcher.releasedByClose {l : Launcher} {c : Command} {options : TerminalOptions}
    {block : List Bytes} {h : Handle} (launch : (l.openTerminal c options block).Yields t (.ok h)) :
    ∃ pair child, deeds t = [.acquired pair, .forked (.ok child), .closed pair.slave] ∧
      ReleasedByClose pair h := by
  have launched := terminalLaunch_of_yields launch
  generalize given : deeds t = ds at launched
  cases launched with
  | launched pair fits child =>
    refine ⟨pair, child, rfl, ?_, ?_, ?_⟩
    · intro es h' u v life dropped close
      obtain ⟨e, he, closes⟩ := close
      have nothing := Transport.fds_eq_nil (life.eq_empty_of_close he closes)
      rw [deeds_append, (life.deeds_of_open rfl).1 ⟨e, he, closes⟩,
        (Handle.yields_drop_iff.1 dropped).deeds_eq, nothing]
      rfl
    · intro es h' u v life dropped unclosed
      obtain rfl := life.eq_of_unclosed rfl unclosed
      rw [deeds_append, (life.deeds_of_open rfl).2 unclosed,
        (Handle.yields_drop_iff.1 dropped).deeds_eq]
      rfl
    · intro u result buffer relays
      exact (FrontEnd.yields_relay_iff.1 relays).deeds_eq rfl

/-- A launch on a terminal that succeeds, of a shell line. -/
theorem Launcher.exists_openTerminal :
    ∃ t, (({} : Launcher).openTerminal (.shell "exit;") {} []).Yields t
      (.ok ⟨9, .terminal (.holding 5) "/dev/pts/3", none⟩) := by
  have fits : ¬ (Bytes.ofText "/dev/pts/3").length + 1 > 64 := by decide
  apply Exists.intro
  apply Yields.call (r := false)
  apply Yields.call (r := Except.ok none)
  apply Yields.call (r := Except.ok ⟨5, 6, "/dev/pts/3"⟩)
  rw [done_bind]
  dsimp only
  rw [if_neg fits]
  apply Yields.fork (r := .ok 9)
  apply Yields.call (r := ())
  apply Yields.call (r := Except.ok ())
  exact .done _

/-- A handle that a relay gives up, since there is no descriptor left for its input. -/
theorem Launcher.releasedByClose_of_failed_relay :
    ∃ t h, (({} : Launcher).openTerminal (.shell "exit;") {} []).Yields t (.ok h) ∧
      (∃ u, (FrontEnd.relay h).Yields u (some (.error (.input (.os .EMFILE))), {}) ∧
        deeds u = [.closed 5]) ∧
      ∃ pair child, deeds t = [.acquired pair, .forked (.ok child), .closed pair.slave] ∧
        ReleasedByClose pair h := by
  obtain ⟨t, launch⟩ := exists_openTerminal
  let h : Handle := ⟨9, .terminal (.holding 5) "/dev/pts/3", none⟩
  have cloned : h.cloneInput.Yields [.reply (.duplicate 5 3 true) (.error .EMFILE)]
      (.error (.os .EMFILE)) := .call (.done _)
  have dropped : h.Dropping [.reply (.log (.droppedUnreaped 9)) (), .reply (.close 5) (.ok ())] :=
    ⟨_, rfl, _, rfl⟩
  exact ⟨t, h, launch, ⟨_, FrontEnd.yields_relay_iff.2 (.refused cloned dropped), rfl⟩,
    releasedByClose launch⟩

/-- A slave is not always released: a handle that is given up after its input could not be
duplicated closes the master all the same. -/
theorem Launcher.not_forall_drop_released :
    ¬ ∀ (l : Launcher) (c : Command) (options : TerminalOptions) (block : List Bytes)
      (t u : List Exchange) (h h' : Handle) (es : List Episode) (master : Fd) (slaveName : String),
      (l.openTerminal c options block).Yields t (.ok h) →
      h.transport = .terminal (.holding master) slaveName → Lifetime h es h' →
      (∀ e ∈ es, e.operation ≠ .close) → h'.drop.Yields u () →
      deeds (es.flatMap Episode.exchanges ++ u) = [.released slaveName, .closed master] := by
  intro released
  obtain ⟨t, launch⟩ := exists_openTerminal
  let h : Handle := ⟨9, .terminal (.holding 5) "/dev/pts/3", none⟩
  have cloned : (h.perform .cloneInput).Yields [.reply (.duplicate 5 3 true) (.error .EMFILE)]
      (h, .cloned (.error (.os .EMFILE))) := .call (.done _)
  have life : Lifetime h [⟨h, .cloneInput, _, _, h, cloned⟩] h :=
    .cons ⟨h, _, _, _, h, cloned⟩ (.nil h)
  have dropped : h.drop.Yields [.reply (.log (.droppedUnreaped 9)) (), .reply (.close 5) (.ok ())]
      () := .call (.call (.done _))
  have unclosed : ∀ e ∈ [(⟨h, .cloneInput, _, _, h, cloned⟩ : Episode)], e.operation ≠ .close := by
    simp
  cases released _ _ _ _ t _ h h _ 5 "/dev/pts/3" launch rfl life unclosed dropped

end Coprocess
