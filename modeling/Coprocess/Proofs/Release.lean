import Coprocess.Launch
import Coprocess.Proofs.Allocation
import Coprocess.Proofs.Lifetime
import Coprocess.Proofs.Plans

/-!
# The release of a slave

A launch on a terminal acquires a pair from the allocator, and whoever has acquired it owes the
release of its slave: the launch if it fails, and else the handle.  A `Deed` is an exchange that
matters for this debt, and `deeds` are those of a trace, in order.

`TerminalLaunch` lists the ways that a launch can go, by its deeds; `Lifetime.deeds_of_open` says
what the deeds are of a caller that has got the handle.  The main statement,
`openTerminal_releases_once`, puts the two together: over a launch and all that follows it the slave
is released once, or not at all if the handle is never closed, and always before the master is
closed.
-/

namespace Coprocess

open Host Program

/-- What happens to a pair of descriptors and to the child that is to have one of them. -/
inductive Deed where
  /-- The allocator has handed out a pair. -/
  | acquired (pair : TerminalPair)
  /-- The allocator was asked to take a slave back, whatever it answered. -/
  | released (slaveName : String)
  /-- A descriptor was given to the system to close, whatever that answered. -/
  | closed (fd : Fd)
  | forked (r : Except Errno Pid)
deriving DecidableEq

/-- The deed that an exchange is, if it is one. -/
def Host.Exchange.deed? : Exchange → Option Deed
  | .reply (.acquireTerminal _ _) (.ok pair) => some (.acquired pair)
  | .reply (.releaseTerminal slaveName) _ => some (.released slaveName)
  | .reply (.close fd) _ => some (.closed fd)
  | .fork _ r => some (.forked r)
  | _ => none

/-- The deeds of a trace. -/
def deeds (t : List Exchange) : List Deed := t.filterMap Exchange.deed?

/-- A request that is no deed, whatever the answer. -/
def Host.Call.Idle (c : Call) : Prop := ∀ r, (Exchange.reply c r).deed? = none

@[simp] theorem deeds_nil : deeds [] = [] := rfl

@[simp] theorem deeds_append (t₁ t₂ : List Exchange) : deeds (t₁ ++ t₂) = deeds t₁ ++ deeds t₂ :=
  List.filterMap_append

theorem deeds_eq_nil_of_only {α : Type} {p : Program α} {t : List Exchange} {a : α}
    (run : p.Yields t a) (only : p.Only Call.Idle) : deeds t = [] := by
  refine List.filterMap_eq_nil_iff.2 fun x hx => ?_
  obtain ⟨c, r, rfl, idle⟩ := run.forall_of_only only x hx
  exact idle r

theorem Transport.Releasing.deeds_eq {during : Origin} {slaveName : String} {t : List Exchange}
    (h : Releasing during slaveName t) : deeds t = [.released slaveName] := by
  rcases h with ⟨r, rfl⟩ | ⟨reason, rfl⟩ <;> rfl

/-! ### Launching -/

/-- Telling of events is all that a plan does. -/
theorem Plan.tellAll_only {P : Call → Prop} (ofLog : ∀ e, P (.log e)) (es : List Event) :
    (tellAll es).Only P := by
  induction es with
  | nil => exact trivial
  | cons e es ih => exact ⟨ofLog e, fun _ => ih⟩

namespace Launcher

/-- What the preparation of a launch asks for. -/
theorem plan_only {P : Call → Prop} (l : Launcher) (c : Command) (block : List Bytes)
    (ofPrivileged : P .isPrivileged) (ofLimit : ∀ directory, P (.pathLimit directory))
    (ofLog : ∀ e, P (.log e)) : (l.plan c block).Only P := by
  have limit : (pathLimit (Bytes.ofText "/")).Only P := by
    rw [pathLimit]
    split
    · exact trivial
    · exact ⟨ofLimit _, fun _ => trivial⟩
  have context : (l.context block).Only P :=
    Only.bind ⟨ofPrivileged, fun _ => limit.bind fun _ => trivial⟩ fun _ => trivial
  rw [plan]
  split
  · exact trivial
  · refine context.bind fun ctx => ?_
    rw [Plan.prepare_eq]
    refine Only.bind ?_ fun planned => ?_
    · exact (Plan.tellAll_only ofLog _).bind fun _ => trivial
    · cases planned <;> exact trivial

theorem closeAll_only {P : Call → Prop} (ofClose : ∀ fd, P (.close fd)) (fds : List Fd) :
    (closeAll fds).Only P := by
  induction fds with
  | nil => exact trivial
  | cons fd fds ih => exact ⟨ofClose fd, fun _ => ih⟩

theorem makePipes_only {P : Call → Prop} (ofPipe : P (.pipe true)) (ofClose : ∀ fd, P (.close fd)) :
    makePipes.Only P := by
  have asks : (request (.pipe true)).Only P := ⟨ofPipe, fun _ => trivial⟩
  refine asks.bind fun first => ?_
  split
  · exact trivial
  · refine asks.bind fun second => ?_
    split
    · exact (closeAll_only ofClose _).bind fun _ => trivial
    · exact trivial

theorem deeds_of_closeAll {fds : List Fd} {t : List Exchange} {u : Unit}
    (run : (closeAll fds).Yields t u) : deeds t = fds.map .closed := by
  induction fds generalizing t with
  | nil =>
    obtain ⟨rfl, -⟩ := yields_done_iff.1 run
    rfl
  | cons fd fds ih =>
    obtain ⟨r, t, rfl, rest⟩ := yields_call_iff.1 run
    exact congrArg _ (ih rest)

/-- How a launch on a terminal can go: by which deeds, and with what result. -/
inductive TerminalLaunch (capacity : Nat) : List Deed → Except Failure Handle → Prop
  /-- The launch is refused, or the allocator hands nothing out. -/
  | unacquired (reason : Failure) : TerminalLaunch capacity [] (.error reason)
  | tooLong (pair : TerminalPair) (long : capacity < (Bytes.ofText pair.slaveName).length + 1) :
      TerminalLaunch capacity
        [.acquired pair, .released pair.slaveName, .closed pair.master, .closed pair.slave]
        (.error (.slaveNameTooLong pair.slaveName capacity))
  | unforked (pair : TerminalPair) (fits : (Bytes.ofText pair.slaveName).length + 1 ≤ capacity)
      (reason : Errno) :
      TerminalLaunch capacity
        [.acquired pair, .forked (.error reason), .released pair.slaveName, .closed pair.master,
          .closed pair.slave]
        (.error (.system "fork" reason))
  | launched (pair : TerminalPair) (fits : (Bytes.ofText pair.slaveName).length + 1 ≤ capacity)
      (child : Pid) :
      TerminalLaunch capacity [.acquired pair, .forked (.ok child), .closed pair.slave]
        (.ok ⟨child, .terminal (.holding pair.master) pair.slaveName, none⟩)

/-- What a launch does when it gives a pair up. -/
theorem deeds_of_giveUp {pair : TerminalPair} {reason : Failure} {t : List Exchange}
    {r : Except Failure Handle}
    (run : ((Handle.release .launch pair.slaveName).bind fun _ =>
      (closeAll [pair.master, pair.slave]).bind fun _ => .done (.error reason)).Yields t r) :
    deeds t = [.released pair.slaveName, .closed pair.master, .closed pair.slave] ∧
      r = .error reason := by
  obtain ⟨t₁, _, _, rfl, releasing, rest⟩ := yields_bind_iff.1 run
  obtain ⟨t₂, _, t₃, rfl, closing, last⟩ := yields_bind_iff.1 rest
  obtain ⟨rfl, rfl⟩ := yields_done_iff.1 last
  rw [deeds_append, deeds_append, (Handle.yields_release_iff.1 releasing).deeds_eq,
    deeds_of_closeAll closing]
  exact ⟨rfl, rfl⟩

/-- Every run of a launch on a terminal goes in one of the ways that are listed. -/
theorem terminalLaunch_of_yields {l : Launcher} {c : Command} {options : TerminalOptions}
    {block : List Bytes} {t : List Exchange} {r : Except Failure Handle}
    (run : (l.openTerminal c options block).Yields t r) :
    TerminalLaunch options.nameCapacity (deeds t) r := by
  rw [openTerminal] at run
  split at run
  · obtain ⟨rfl, rfl⟩ := yields_done_iff.1 run
    exact .unacquired _
  · obtain ⟨t₁, planned, t₂, rfl, planning, rest⟩ := yields_bind_iff.1 run
    have idle : deeds t₁ = [] :=
      deeds_eq_nil_of_only planning (l.plan_only c block (fun _ => rfl) (fun _ _ => rfl)
        fun _ _ => rfl)
    rw [deeds_append, idle, List.nil_append]
    rcases planned with reason | ⟨kind, plan⟩
    · obtain ⟨rfl, rfl⟩ := yields_done_iff.1 rest
      exact .unacquired _
    · obtain ⟨acquired, t₃, rfl, answered⟩ := yields_call_iff.1 rest
      rcases acquired with reason | pair
      · obtain ⟨rfl, rfl⟩ := yields_done_iff.1 answered
        exact .unacquired _
      · -- From here on there is a pair to give up or to hand on.
        show TerminalLaunch _ (.acquired pair :: deeds t₃) r
        rw [done_bind] at answered
        dsimp only at answered
        split at answered
        next long =>
          obtain ⟨given, rfl⟩ := deeds_of_giveUp answered
          rw [given]
          exact .tooLong pair long
        next fits =>
          have fits := Nat.le_of_not_lt fits
          obtain ⟨forked, t₄, rfl, parent⟩ := yields_fork_iff.1 answered
          show TerminalLaunch _ (.acquired pair :: .forked forked :: deeds t₄) r
          rcases forked with reason | child
          · obtain ⟨given, rfl⟩ := deeds_of_giveUp parent
            rw [given]
            exact .unforked pair fits reason
          · obtain ⟨⟨⟩, t₅, rfl, told⟩ := yields_call_iff.1 parent
            rw [done_bind] at told
            obtain ⟨t₆, _, t₇, rfl, closing, last⟩ := yields_bind_iff.1 told
            obtain ⟨rfl, rfl⟩ := yields_done_iff.1 last
            show TerminalLaunch _ (.acquired pair :: .forked (.ok child) :: deeds (t₆ ++ [])) _
            rw [List.append_nil, deeds_of_closeAll closing]
            exact .launched pair fits child

end Launcher

/-! ### Using the handle -/

theorem Handle.Reaping.deeds_eq {h h' : Handle} {t : List Exchange} {result : Except Failure Status}
    (reaping : h.Reaping t h' result) : deeds t = [] := by
  have waiting (pid : Pid) (answers : List Handle.WaitAnswer) :
      deeds (Handle.waits pid answers) = [] := by
    induction answers with
    | nil => rfl
    | cons answer answers ih => exact ih
  cases reaping with
  | known => rfl
  | failed => exact waiting _ _
  | ended =>
    rw [deeds_append, waiting]
    rfl

namespace Episode

/-- An episode that is no close does nothing to a terminal. -/
theorem deeds_of_other {e : Episode} (other : e.operation ≠ .close)
    (terminal : e.before.transport.isTerminal = true) :
    deeds e.exchanges = [] ∧ e.after = e.before := by
  constructor
  · refine deeds_eq_nil_of_only e.run (Handle.perform_only _ other (fun _ _ _ => rfl)
      (fun _ _ _ => rfl) (fun _ _ _ _ => rfl) fun pipes => ?_)
    cases terminal.symm.trans pipes
  · rcases Handle.yields_perform_cases e.run with ⟨same, -⟩ | ⟨-, closed, -, run⟩ | ⟨close, -⟩
    · exact same
    · rw [Handle.yields_closeInput_iff] at run
      split at run
      next transport =>
        rw [transport] at terminal
        cases terminal
      next => exact run.2.1
    · exact absurd close other

/-- A close releases the slave and then closes the master, if that is still open. -/
theorem deeds_of_close {e : Episode} {master : Slot} {slaveName : String}
    (close : e.operation = .close) (terminal : e.before.transport = .terminal master slaveName) :
    e.after.transport = .terminal .empty slaveName ∧
      deeds e.exchanges = match master.fd with
        | some fd => [.released slaveName, .closed fd]
        | none => [] := by
  obtain ⟨_, -, run⟩ := yields_of_close close
  obtain ⟨t₁, t₂, exchanges, closing, reaping⟩ := Handle.yields_close_iff.1 run
  rw [terminal] at closing
  constructor
  · rw [reaping.transport_eq, Handle.transport_emptied, terminal]
    rfl
  · have told : deeds (e.before.closedNote :: t₂) = [] := reaping.deeds_eq
    rw [exchanges, deeds_append, told, List.append_nil]
    rcases master with ⟨_ | fd⟩
    · cases closing
      rfl
    · obtain ⟨t₁, t₂, rfl, releasing, r, rfl⟩ := closing
      rw [deeds_append, releasing.deeds_eq]
      rfl

end Episode

namespace Lifetime

variable {h h' : Handle} {es : List Episode} {slaveName : String}

/-- A handle that is closed does nothing to the terminal any more. -/
theorem deeds_of_closed (life : Lifetime h es h')
    (terminal : h.transport = .terminal .empty slaveName) :
    deeds (es.flatMap Episode.exchanges) = [] := by
  induction life with
  | nil => rfl
  | cons e _ ih =>
    rw [List.flatMap_cons, deeds_append]
    by_cases close : e.operation = .close
    · obtain ⟨after, idle⟩ := Episode.deeds_of_close close terminal
      rw [idle, ih after]
      rfl
    · obtain ⟨idle, after⟩ := Episode.deeds_of_other close (by rw [terminal]; rfl)
      rw [idle, ih (after ▸ terminal), List.append_nil]

/-- The first close of a handle settles the debt, and later ones find nothing to do. -/
theorem deeds_of_open {master : Fd} (life : Lifetime h es h')
    (terminal : h.transport = .terminal (.holding master) slaveName) :
    ((∃ e ∈ es, e.operation = .close) →
      deeds (es.flatMap Episode.exchanges) = [.released slaveName, .closed master]) ∧
    ((∀ e ∈ es, e.operation ≠ .close) → deeds (es.flatMap Episode.exchanges) = []) := by
  induction life with
  | nil => simp
  | cons e life ih =>
    rw [List.flatMap_cons, deeds_append]
    by_cases close : e.operation = .close
    · obtain ⟨after, settled⟩ := Episode.deeds_of_close close terminal
      rw [settled, life.deeds_of_closed after]
      refine ⟨fun _ => rfl, fun others => ?_⟩
      exact absurd close (others e List.mem_cons_self)
    · obtain ⟨idle, after⟩ := Episode.deeds_of_other close (by rw [terminal]; rfl)
      obtain ⟨closed, unclosed⟩ := ih (after ▸ terminal)
      rw [idle, List.nil_append]
      constructor
      · rintro ⟨e', he', close'⟩
        rcases List.mem_cons.1 he' with rfl | he'
        · exact absurd close' close
        · exact closed ⟨e', he', close'⟩
      · intro others
        exact unclosed fun e' he' => others e' (List.mem_cons_of_mem e he')

end Lifetime

/-! ### A launch and all that follows -/

/-- What a caller can do after a launch: nothing if that failed, and else whatever can be done with
the handle. -/
def Follows : Except Failure Handle → List Episode → Prop
  | .error _, es => es = []
  | .ok h, es => ∃ h', Lifetime h es h'

/-- The account of a slave, from the exchanges `t` of a launch with the result `r` over the episodes
`es` that follow it. -/
structure ReleasedOnce (capacity : Nat) (t : List Exchange) (r : Except Failure Handle)
    (es : List Episode) : Prop where
  /-- If the allocator was not asked or had no pair to give, nothing is released. -/
  unacquired : (∀ pair, .acquired pair ∉ deeds t) →
    (∃ reason, r = .error reason) ∧ ∀ slaveName, .released slaveName ∉ deeds t
  /-- With a pair at hand the launch fails if the name is too long or there is no child, and only
  then. -/
  fails_iff : ∀ pair, .acquired pair ∈ deeds t →
    ((∃ reason, r = .error reason) ↔
      capacity < (Bytes.ofText pair.slaveName).length + 1 ∨
        ∃ reason, .forked (.error reason) ∈ deeds t)
  /-- A launch that fails with a pair at hand gives it up: one release, and both descriptors are
  closed after it. -/
  failed : ∀ pair reason, .acquired pair ∈ deeds t → r = .error reason →
    (reason = .slaveNameTooLong pair.slaveName capacity ∧
      deeds t = [.acquired pair, .released pair.slaveName, .closed pair.master,
        .closed pair.slave]) ∨
    ∃ e, reason = .system "fork" e ∧
      deeds t = [.acquired pair, .forked (.error e), .released pair.slaveName,
        .closed pair.master, .closed pair.slave]
  /-- A launch that succeeds has released nothing.  What is done with its handle releases the slave
  once if it is closed, however often, and not at all if it is not. -/
  launched : ∀ h, r = .ok h → ∃ pair child,
    deeds t = [.acquired pair, .forked (.ok child), .closed pair.slave] ∧
    h = ⟨child, .terminal (.holding pair.master) pair.slaveName, none⟩ ∧
    ((∃ e ∈ es, e.operation = .close) → deeds (es.flatMap Episode.exchanges) =
      [.released pair.slaveName, .closed pair.master]) ∧
    ((∀ e ∈ es, e.operation ≠ .close) → deeds (es.flatMap Episode.exchanges) = [])
  /-- Nothing is released once the master is closed. -/
  master_open : ∀ pair, .acquired pair ∈ deeds t → pair.master ≠ pair.slave →
    (deeds (t ++ es.flatMap Episode.exchanges)).Pairwise fun earlier later =>
      earlier = .closed pair.master → ∀ slaveName, later ≠ .released slaveName

/-- The account of a launch that failed. -/
theorem Launcher.TerminalLaunch.releasedOnce_of_error {capacity : Nat} {t : List Exchange}
    {reason : Failure} (launch : TerminalLaunch capacity (deeds t) (.error reason)) :
    ReleasedOnce capacity t (.error reason) [] := by
  generalize given : deeds t = ds at launch
  cases launch with
  | unacquired =>
    refine ⟨fun _ => ⟨⟨_, rfl⟩, ?_⟩, ?_, ?_, nofun, ?_⟩ <;> simp [given]
  | tooLong pair long =>
    refine ⟨?_, ?_, ?_, nofun, ?_⟩
    · intro none
      exact absurd (by simp [given]) (none pair)
    · intro pair' acquired
      obtain rfl : pair' = pair := by simpa [given] using acquired
      exact ⟨fun _ => .inl long, fun _ => ⟨_, rfl⟩⟩
    · rintro pair' _ acquired ⟨⟩
      obtain rfl : pair' = pair := by simpa [given] using acquired
      exact .inl ⟨rfl, given⟩
    · intro pair' acquired distinct
      simp [given]
  | unforked pair fits e =>
    refine ⟨?_, ?_, ?_, nofun, ?_⟩
    · intro none
      exact absurd (by simp [given]) (none pair)
    · intro pair' acquired
      exact ⟨fun _ => .inr ⟨e, by simp [given]⟩, fun _ => ⟨_, rfl⟩⟩
    · rintro pair' _ acquired ⟨⟩
      obtain rfl : pair' = pair := by simpa [given] using acquired
      exact .inr ⟨e, rfl, given⟩
    · intro pair' acquired distinct
      simp [given]

/-- The account of a launch that succeeded, whatever becomes of its handle. -/
theorem Launcher.TerminalLaunch.releasedOnce_of_ok {capacity : Nat} {t : List Exchange}
    {h h' : Handle} {es : List Episode} (launch : TerminalLaunch capacity (deeds t) (.ok h))
    (life : Lifetime h es h') : ReleasedOnce capacity t (.ok h) es := by
  generalize given : deeds t = ds at launch
  cases launch with
  | launched pair fits child =>
    obtain ⟨closed, unclosed⟩ := life.deeds_of_open rfl
    refine ⟨?_, ?_, nofun, ?_, ?_⟩
    · intro none
      exact absurd (by simp [given]) (none pair)
    · intro pair' acquired
      obtain rfl : pair' = pair := by simpa [given] using acquired
      constructor
      · rintro ⟨_, ⟨⟩⟩
      · rintro (long | ⟨e, forked⟩)
        · omega
        · simp [given] at forked
    · rintro _ ⟨⟩
      exact ⟨pair, child, given, rfl, closed, unclosed⟩
    · intro pair' acquired distinct
      obtain rfl : pair' = pair := by simpa [given] using acquired
      rw [deeds_append, given]
      by_cases close : ∃ e ∈ es, e.operation = .close
      · rw [closed close]
        simp [distinct.symm]
      · rw [unclosed fun e he same => close ⟨e, he, same⟩]
        simp

theorem Launcher.releasedOnce_of_yields {l : Launcher} {c : Command} {options : TerminalOptions}
    {block : List Bytes} {t : List Exchange} {r : Except Failure Handle} {es : List Episode}
    (run : (l.openTerminal c options block).Yields t r) (follows : Follows r es) :
    ReleasedOnce options.nameCapacity t r es := by
  have launch := terminalLaunch_of_yields run
  cases r with
  | error reason =>
    obtain rfl : es = [] := follows
    exact launch.releasedOnce_of_error
  | ok h =>
    obtain ⟨h', life⟩ := follows
    exact launch.releasedOnce_of_ok life

/-- The account holds of a launch with any allocator in charge: `t` are the exchanges as the launch
sees them, in which each request to the allocator is one run of it. -/
theorem Launcher.releasedOnce_of_allocatedBy {σ : Type} {a : Allocator σ} {s s' : σ}
    {l : Launcher} {c : Command} {options : TerminalOptions} {block : List Bytes}
    {t' : List Exchange} {r : Except Failure Handle}
    (run : ((l.openTerminal c options block).allocatedBy a s).Yields t' (r, s')) :
    ∃ t, a.Serves s t t' s' ∧ ∀ es, Follows r es → ReleasedOnce options.nameCapacity t r es := by
  obtain ⟨t, alone, serves⟩ := exists_of_yields_allocatedBy run
  exact ⟨t, serves, fun es follows => releasedOnce_of_yields alone follows⟩

/-- **A slave is released exactly once.**  A capacity that is too small is refused before anything
else is looked at.  Over every other launch, and over everything that is done with its handle
afterwards, the account of the slave balances, whatever the allocator and the host answer. -/
theorem Launcher.openTerminal_releases_once (l : Launcher) (c : Command) (options : TerminalOptions)
    (block : List Bytes) :
    (options.nameCapacity < 64 → l.openTerminal c options block =
      pure (.error (.rejected (.slaveNameCapacity options.nameCapacity 64)))) ∧
    ∀ t r es, (l.openTerminal c options block).Yields t r → Follows r es →
      ReleasedOnce options.nameCapacity t r es := by
  constructor
  · intro small
    rw [openTerminal, if_pos (show options.nameCapacity < leastNameCapacity from small)]
    rfl
  · intro t r es run follows
    exact releasedOnce_of_yields run follows

/-- A launch whose capacity is too small, and one whose handle is closed twice, the first time with
a release and a wait that fail. -/
theorem Launcher.openTerminal_releases_once_of_retried_close :
    (({} : Launcher).openTerminal (.shell "exit;") { nameCapacity := 63 } [] =
      pure (.error (.rejected (.slaveNameCapacity 63 64)))) ∧
    ∃ t h es, (({} : Launcher).openTerminal (.shell "exit;") {} []).Yields t (.ok h) ∧
      Follows (.ok h) es ∧
      es.map Episode.answer = [.ended (.error (.system "waitpid" .ECHILD)),
        .ended (.ok (.exited 3))] ∧
      deeds (es.flatMap Episode.exchanges) = [.released "/dev/pts/3", .closed 5] ∧
      ReleasedOnce 64 t (.ok h) es := by
  refine ⟨(openTerminal_releases_once _ _ _ _).1 (by decide), ?_⟩
  let h₀ : Handle := ⟨9, .terminal (.holding 5) "/dev/pts/3", none⟩
  let h₁ : Handle := ⟨9, .terminal .empty "/dev/pts/3", none⟩
  let h₂ : Handle := ⟨9, .terminal .empty "/dev/pts/3", some (.exited 3)⟩
  let refused : Failure := .system "revoke" .EPERM
  have launch : ∃ t, (({} : Launcher).openTerminal (.shell "exit;") {} []).Yields t (.ok h₀) := by
    have fits : ¬ (Bytes.ofText "/dev/pts/3").length + 1 > 64 := by decide
    apply Exists.intro
    apply Yields.call (r := false)
    apply Yields.call (r := Except.ok none)
    apply Yields.call (r := Except.ok ⟨5, 6, "/dev/pts/3"⟩)
    rw [done_bind]
    dsimp only
    rw [if_neg fits]
    apply Yields.fork (r := .ok 9)
    apply Yields.call (r := ())
    apply Yields.call (r := Except.ok ())
    exact .done _
  have failed : h₀.close.Yields ([.reply (.releaseTerminal "/dev/pts/3") (.error refused),
      .reply (.log (.releaseFailed .lifecycle "/dev/pts/3" refused.message)) (),
      .reply (.close 5) (.ok ())] ++ h₀.closedNote :: Handle.waits 9 ([] ++ [.error .ECHILD]))
      (h₁, .error (.system "waitpid" .ECHILD)) :=
    Handle.yields_close_iff.2 ⟨_, _, rfl, ⟨[_, _], [_], rfl, .inr ⟨refused, rfl⟩, _, rfl⟩,
      .failed rfl nofun (by decide)⟩
  have ended : h₁.close.Yields ([] ++ h₁.closedNote :: (Handle.waits 9
      ([] ++ [.ok (9, .exited 3)]) ++ [.reply (.log (.waited 9 (.exited 3))) ()]))
      (h₂, .ok (.exited 3)) :=
    Handle.yields_close_iff.2 ⟨_, _, rfl, rfl, .ended rfl nofun rfl⟩
  have life : Lifetime h₀ _ h₂ :=
    .cons ⟨h₀, .close, _, _, h₁, failed.bind (.done _)⟩
      (.cons ⟨h₁, .close, _, _, h₂, ended.bind (.done _)⟩ (.nil h₂))
  obtain ⟨t, launch⟩ := launch
  exact ⟨t, h₀, _, launch, ⟨h₂, life⟩, rfl, rfl,
    (openTerminal_releases_once _ _ {} _).2 t _ _ launch ⟨h₂, life⟩⟩

end Coprocess
