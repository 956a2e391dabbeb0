import Coprocess.Host.Kernel
import Coprocess.Proofs.Lifetime

/-!
# What becomes of a child's end

The machine tells of the end of a child once.  The wait that is told reaps the child, and every wait
after it is refused (`World.refuses_wait_of_reaped`).  The report is read only after that, and a
signal without a name cannot be read.

What a handle learns over its lifetime is a matter of the answers to its waits alone: its status is
that of the first answer from which one can be read (`Lifetime.status_eq`).  A child that was killed
by a signal without a name is therefore gone while its status stays unknown, and no later close can
find it out.  The main statement, `Lifetime.known_iff_named`, says that these are the only ends that
are lost.
-/

namespace Coprocess

open Host Program

/-! ### Reports of an end -/

/-- How the child ended, if the report is one of an end, whether or not the engine can read it. -/
def Host.WaitReport.status? : WaitReport → Option Status
  | exited code => some (.exited code)
  | killed signal coreDumped => some (.signaled signal coreDumped)
  | _ => none

/-- The signal that a report tells of has a name, if there is one. -/
def Host.WaitReport.IsNamed : WaitReport → Prop
  | killed signal _ => signal ≤ lastNamedSignal
  | stopped signal => signal ≤ lastNamedSignal
  | _ => True

namespace Handle

/-- The status that a wait reads from an answer, if it can read one. -/
def readStatus (answer : WaitAnswer) : Option Status := (verdict answer).bind Except.toOption

/-- The report of an end decides a wait, and the wait succeeds if the report can be read. -/
theorem verdict_of_status? (pid : Pid) {report : WaitReport} {s : Status}
    (ended : report.status? = some s) :
    (report.IsNamed → verdict (.ok (pid, report)) = some (.ok s)) ∧
    (¬ report.IsNamed →
      verdict (.ok (pid, report)) = some (.error (.system "waitpid" .EINVAL))) := by
  cases report with
  | exited code =>
    cases ended
    exact ⟨fun _ => rfl, fun unnamed => absurd trivial unnamed⟩
  | killed signal coreDumped =>
    cases ended
    exact ⟨fun named => if_pos named, fun unnamed => if_neg unnamed⟩
  | stopped => cases ended
  | continued => cases ended
  | stillAlive => cases ended

/-- Only the report of an end has a status to be read. -/
theorem readStatus_eq_none {answer : WaitAnswer}
    (running : ∀ pid report, answer = .ok (pid, report) → report.status? = none) :
    readStatus answer = none := by
  rcases answer with reason | ⟨pid, report⟩
  · by_cases interrupted : reason = .EINTR
    · simp [readStatus, verdict, interrupted]
    · simp [readStatus, verdict, interrupted, Except.toOption]
  · have noEnd := running pid report rfl
    cases report with
    | exited => cases noEnd
    | killed => cases noEnd
    | stopped signal =>
      -- Either the wait passes the stop over, or it fails to read the signal.
      by_cases named : signal ≤ lastNamedSignal
      · simp [readStatus, verdict, named]
      · simp [readStatus, verdict, named, Except.toOption]
    | continued => rfl
    | stillAlive => rfl

theorem readStatus_of_passed {answer : WaitAnswer} (passed : verdict answer = none) :
    readStatus answer = none := by
  rw [readStatus, passed]
  rfl

/-! ### What a handle learns -/

/-- The answers to the waits that have passed. -/
def waited (t : List Exchange) : List WaitAnswer := t.filterMap Exchange.waited?

theorem waited_append (t₁ t₂ : List Exchange) : waited (t₁ ++ t₂) = waited t₁ ++ waited t₂ :=
  List.filterMap_append

/-- An operation that is no close is never told of the child. -/
theorem waited_of_other {h h' : Handle} {operation : Operation} {t : List Exchange}
    {answer : Answer} (other : operation ≠ .close)
    (run : (h.perform operation).Yields t (h', answer)) : waited t = [] := by
  refine List.filterMap_eq_nil_iff.2 fun x hx => ?_
  have only : (h.perform operation).Only fun c => ∀ child block, c ≠ .wait child block :=
    perform_only h other nofun nofun nofun nofun
  obtain ⟨c, r, rfl, notWait⟩ := run.forall_of_only only x hx
  cases c with
  | wait child block => exact absurd rfl (notWait child block)
  | _ => rfl

/-- An operation that is no close leaves the status as it is. -/
theorem status_of_other {h h' : Handle} {operation : Operation} {t : List Exchange}
    {answer : Answer} (other : operation ≠ .close)
    (run : (h.perform operation).Yields t (h', answer)) : h'.status = h.status := by
  rcases yields_perform_cases run with ⟨same, -⟩ | ⟨-, _, -, closing⟩ | ⟨close, -⟩
  · rw [same]
  · rw [yields_closeInput_iff] at closing
    split at closing
    · rw [closing.2.1]
    · rw [closing.2.1]
  · exact absurd close other

/-- The answers to the waits of a close are those of its second half. -/
theorem waited_of_closing {h : Handle} {T : Transport} {t₁ t₂ : List Exchange}
    (closing : T.Closing t₁) : waited (t₁ ++ h.closedNote :: t₂) = waited t₂ := by
  rw [waited_append, show waited t₁ = [] from filterMap_waited?_of_closing closing]
  rfl

/-- Of the answers to a wait only the last can be read. -/
theorem findSome?_waited_waits {pid : Pid} {skipped : List WaitAnswer} {last : WaitAnswer}
    (passed : ∀ answer ∈ skipped, verdict answer = none) :
    (waited (waits pid (skipped ++ [last]))).findSome? readStatus = readStatus last := by
  have unread : skipped.findSome? readStatus = none :=
    List.findSome?_eq_none_iff.2 fun answer hanswer => readStatus_of_passed (passed answer hanswer)
  rw [waited, filterMap_waited?_waits, List.findSome?_append, unread]
  simp

/-- A close learns the status that can be read from the answers to its waits, if it does not know
the status already. -/
theorem Reaping.status_eq_or {h h' : Handle} {t : List Exchange} {result : Except Failure Status}
    (reaping : h.Reaping t h' result) :
    h'.status = (h.status <|> (waited t).findSome? readStatus) := by
  cases reaping with
  | known known =>
    rw [known]
    rfl
  | failed unknown passed decided =>
    rw [findSome?_waited_waits passed, unknown, readStatus, decided]
    rfl
  | @ended skipped last status unknown passed decided =>
    have silent : waited [.reply (.log (.waited h.pid status)) ()] = [] := rfl
    rw [waited_append, silent, List.append_nil, findSome?_waited_waits passed, unknown, readStatus,
      decided]
    rfl

end Handle

/-- An episode learns the status that can be read from the answers to its waits, if it was not known
before. -/
theorem Episode.status_eq_or (e : Episode) :
    e.after.status =
      (e.before.status <|> (Handle.waited e.exchanges).findSome? Handle.readStatus) := by
  by_cases close : e.operation = .close
  · obtain ⟨_, -, run⟩ := Episode.yields_of_close close
    obtain ⟨t₁, t₂, exchanges, closing, reaping⟩ := Handle.yields_close_iff.1 run
    rw [exchanges, Handle.waited_of_closing closing]
    exact reaping.status_eq_or
  · rw [Handle.waited_of_other close e.run, Handle.status_of_other close e.run]
    simp

namespace Lifetime

variable {h h' : Handle} {es : List Episode}

/-- **What a handle learns.**  A status that is known stays, and else the status is that of the
first answer from which one can be read. -/
theorem status_eq (life : Lifetime h es h') :
    h'.status = (h.status <|>
      (Handle.waited (es.flatMap Episode.exchanges)).findSome? Handle.readStatus) := by
  induction life with
  | nil h => simp [Handle.waited]
  | cons e life ih =>
    rw [ih, e.status_eq_or, List.flatMap_cons, Handle.waited_append, List.findSome?_append]
    cases e.before.status <;> simp

end Lifetime

/-! ### Reports and closes -/

/-- Only a close that does not know the status waits. -/
theorem Handle.Reaping.unknown_of_mem_waited {h h' : Handle} {t : List Exchange}
    {result : Except Failure Status} {answer : WaitAnswer} (reaping : h.Reaping t h' result)
    (told : answer ∈ waited t) : h.status = none := by
  cases reaping with
  | known => cases told
  | failed unknown => exact unknown
  | ended unknown => exact unknown

/-- An episode that is told of an end is a close, and that is the last it is told. -/
theorem Episode.answer_of_told {e : Episode} {pid : Pid} {report : WaitReport} {s : Status}
    (ended : report.status? = some s) (told : .ok (pid, report) ∈ Handle.waited e.exchanges) :
    e.operation = .close ∧ ∃ result, Handle.verdict (.ok (pid, report)) = some result ∧
      e.answer = .ended result := by
  by_cases close : e.operation = .close
  · obtain ⟨result, answer, run⟩ := Episode.yields_of_close close
    refine ⟨close, result, ?_, answer⟩
    obtain ⟨t₁, t₂, exchanges, closing, reaping⟩ := Handle.yields_close_iff.1 run
    rw [exchanges, Handle.waited_of_closing closing] at told
    have unknown : e.before.status = none := reaping.unknown_of_mem_waited told
    obtain ⟨skipped, last, answers, passed, decided⟩ := Handle.waited_of_close unknown run
    have answers : Handle.waited t₂ = skipped ++ [last] := by
      rw [← Handle.waited_of_closing closing, ← exchanges]
      exact answers
    rw [answers, List.mem_append, List.mem_singleton] at told
    rcases told with early | rfl
    · -- The report of an end is not passed over.
      have decides := Handle.verdict_of_status? pid ended
      by_cases named : report.IsNamed
      · cases (passed _ early).symm.trans (decides.1 named)
      · cases (passed _ early).symm.trans (decides.2 named)
    · exact decided
  · rw [Handle.waited_of_other close e.run] at told
    cases told

/-- What comes of the end `s` of a child, of which a lifetime to `h'` was told by `report`. -/
structure EndReported (es : List Episode) (h' : Handle) (pid : Pid) (report : WaitReport)
    (s : Status) : Prop where
  /-- An end that can be read is known from then on. -/
  known : report.IsNamed → h'.status = some s
  /-- An end that cannot be read is lost: the status stays unknown, and no close answers one. -/
  lost : ¬ report.IsNamed → h'.status = none ∧ ∀ e ∈ es, ∀ s', e.answer ≠ .ended (.ok s')
  /-- Whoever is told is a close; it answers the end if that can be read, and else an error. -/
  told : ∀ e ∈ es, .ok (pid, report) ∈ Handle.waited e.exchanges → e.operation = .close ∧
    (report.IsNamed → e.answer = .ended (.ok s)) ∧
    (¬ report.IsNamed → e.answer = .ended (.error (.system "waitpid" .EINVAL)))

/-- **The end of a child is known if and only if its signal has a name.**  The machine tells of the
end once: no answer before the report is one of an end, and after it the child is gone.  How often
the waits are interrupted or fail, and how the caller goes on, makes no difference. -/
theorem Lifetime.known_iff_named {h h' : Handle} {es : List Episode} (life : Lifetime h es h')
    (unknown : h.status = none) {before after : List Handle.WaitAnswer} {pid : Pid}
    {report : WaitReport} {s : Status}
    (answers : Handle.waited (es.flatMap Episode.exchanges) =
      before ++ .ok (pid, report) :: after)
    (running : ∀ n r, .ok (n, r) ∈ before → r.status? = none)
    (ended : report.status? = some s) (gone : ∀ answer ∈ after, answer = .error .ECHILD) :
    EndReported es h' pid report s := by
  have decides := Handle.verdict_of_status? pid ended
  have unread : before.findSome? Handle.readStatus = none := by
    refine List.findSome?_eq_none_iff.2 fun answer hanswer => Handle.readStatus_eq_none ?_
    rintro n r rfl
    exact running n r hanswer
  have refused : after.findSome? Handle.readStatus = none := by
    refine List.findSome?_eq_none_iff.2 fun answer hanswer => Handle.readStatus_eq_none ?_
    rintro n r rfl
    cases gone _ hanswer
  have status : h'.status = Handle.readStatus (.ok (pid, report)) := by
    rw [life.status_eq, unknown, answers, List.findSome?_append, unread, List.findSome?_cons,
      refused]
    cases Handle.readStatus (.ok (pid, report)) <;> rfl
  refine ⟨?_, ?_, ?_⟩
  · intro named
    rw [status, Handle.readStatus, decides.1 named]
    rfl
  · intro unnamed
    have never : h'.status = none := by
      rw [status, Handle.readStatus, decides.2 unnamed]
      rfl
    refine ⟨never, fun e he s' answer => ?_⟩
    cases never.symm.trans ((life.fades_after he).status s' (e.status_of_ended answer))
  · intro e _ told
    obtain ⟨close, result, decided, answer⟩ := Episode.answer_of_told ended told
    refine ⟨close, fun named => ?_, fun unnamed => ?_⟩
    · cases (decides.1 named).symm.trans decided
      exact answer
    · cases (decides.2 unnamed).symm.trans decided
      exact answer

/-- A child that was killed by the first signal without a name, of which an interrupted close was
told: it fails, and so does the one after it. -/
theorem Lifetime.known_iff_named_of_unnamed :
    ∃ es h', Lifetime ⟨7, .pipes (.holding 5) (.holding 6), none⟩ es h' ∧
      Handle.waited (es.flatMap Episode.exchanges) =
        [.error .EINTR, .ok (7, .stopped 19)] ++ .ok (7, .killed 32 true) :: [.error .ECHILD] ∧
      es.map Episode.answer = [.ended (.error (.system "waitpid" .EINVAL)),
        .ended (.error (.system "waitpid" .ECHILD))] ∧
      EndReported es h' 7 (.killed 32 true) (.signaled 32 true) := by
  let h₀ : Handle := ⟨7, .pipes (.holding 5) (.holding 6), none⟩
  let h₁ : Handle := ⟨7, .pipes .empty .empty, none⟩
  have told : h₀.close.Yields ([.reply (.close 5) (.ok ()), .reply (.close 6) (.ok ())] ++
      h₀.closedNote :: Handle.waits 7 ([.error .EINTR, .ok (7, .stopped 19)] ++
        [.ok (7, .killed 32 true)])) (h₁, .error (.system "waitpid" .EINVAL)) :=
    Handle.yields_close_iff.2 ⟨_, _, rfl, ⟨[_], [_], rfl, ⟨_, rfl⟩, _, rfl⟩,
      .failed rfl (by decide) (by decide)⟩
  have gone : h₁.close.Yields ([] ++ h₁.closedNote :: Handle.waits 7 ([] ++ [.error .ECHILD]))
      (h₁, .error (.system "waitpid" .ECHILD)) :=
    Handle.yields_close_iff.2 ⟨_, _, rfl, ⟨[], [], rfl, rfl, rfl⟩, .failed rfl nofun (by decide)⟩
  let first : Episode := ⟨h₀, .close, _, _, h₁, told.bind (.done _)⟩
  let second : Episode := ⟨h₁, .close, _, _, h₁, gone.bind (.done _)⟩
  have life : Lifetime h₀ [first, second] h₁ := .cons first (.cons second (.nil h₁))
  have answers : Handle.waited ([first, second].flatMap Episode.exchanges) =
      [.error .EINTR, .ok (7, .stopped 19)] ++ .ok (7, .killed 32 true) :: [.error .ECHILD] := rfl
  refine ⟨_, h₁, life, answers, rfl, known_iff_named life rfl answers ?_ rfl ?_⟩
  · intro n r listed
    simp only [List.mem_cons, reduceCtorEq, Except.ok.injEq, Prod.mk.injEq, false_or,
      List.not_mem_nil, or_false] at listed
    rw [listed.2]
    rfl
  · simp

/-- An end is not always known: of a child that was killed by a signal from 32 to 64 a close is
told, and fails. -/
theorem Handle.not_forall_end_known :
    ¬ ∀ (h h' : Handle) (t : List Exchange) (result : Except Failure Status) (interruptions : Nat)
      (pid : Pid) (report : WaitReport) (s : Status),
      h.status = none → h.close.Yields t (h', result) →
      waited t = List.replicate interruptions (.error .EINTR) ++ [.ok (pid, report)] →
      report.status? = some s →
      (∀ signal coreDumped, report = .killed signal coreDumped → 1 ≤ signal ∧ signal ≤ 64) →
      result = .ok s ∧ h'.status = some s := by
  intro known
  let h : Handle := ⟨7, .pipes (.holding 5) (.holding 6), none⟩
  have told : h.close.Yields ([.reply (.close 5) (.ok ()), .reply (.close 6) (.ok ())] ++
      h.closedNote :: waits 7 ([] ++ [.ok (7, .killed 34 false)]))
      (h.emptied, .error (.system "waitpid" .EINVAL)) :=
    yields_close_iff.2 ⟨_, _, rfl, ⟨[_], [_], rfl, ⟨_, rfl⟩, _, rfl⟩, .failed rfl nofun (by decide)⟩
  obtain ⟨ok, -⟩ := known h _ _ _ 0 7 (.killed 34 false) (.signaled 34 false) rfl told rfl rfl
    (by rintro _ _ ⟨⟩; decide)
  cases ok

/-! ### On the machine -/

/-- A child of which the machine has told that it has ended is gone: every later wait for it is
refused. -/
theorem Host.World.refuses_wait_of_reaped {w w' : World} {parent pid n : Pid} {report : WaitReport}
    (told : w.answer parent (.wait (some pid) true) = .reply (.ok (n, report)) w') (block : Bool) :
    w'.answer parent (.wait (some pid) block) = .reply (.error .ECHILD) w' := by
  simp only [answer, wait, Option.all_some] at told
  split at told
  next => cases told
  next =>
    split at told
    next m report' found =>
      cases told
      -- The child that is reaped is the one that was asked for.
      obtain ⟨⟨m, p⟩, listed, reported⟩ := List.exists_of_findSome?_eq_some found
      obtain ⟨_, -, same⟩ := Option.map_eq_some_iff.1 reported
      cases same
      have same : pid = m := by simpa using (List.mem_filter.1 listed).2
      have nobody : ((w.reap m).children parent).filter (fun x => pid == x.1) = [] := by
        refine List.filter_eq_nil_iff.2 fun entry hentry => ?_
        have left := (List.mem_filter.1 (List.mem_filter.1 hentry).1).2
        rw [bne_iff_ne] at left
        rw [beq_iff_eq, same]
        exact left.symm
      simp only [answer, wait, Option.all_some, nobody]
      rfl
    next => cases told

end Coprocess
