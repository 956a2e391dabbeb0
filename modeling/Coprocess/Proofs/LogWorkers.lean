import Coprocess.Proofs.FileReading
import Coprocess.Proofs.Stages

/-!
# The worker of a log

A process may start logging and shut it down as often as it likes.  Two things are kept through all
of that, and by different rules: the sink is decided once and for all, while the place for a worker
is emptied by a shutdown and filled again by the next start with a file.  That the worker in that
place is the one of the sink has to be shown for every order of steps.

`Course log es log'` says that the steps `es` lead from `log` to `log'`, whatever the host answers.
A later log has the same sink, if there was one, and as its worker has the one that was kept or one
that was made since (`Later`).  Writers are numbered as they are made, so that a worker that is no
longer kept never comes back, even if its file's descriptor does.

The main statement is `Course.keepsWorker`.
-/

namespace Coprocess.Logging

open Host Program

variable {log log' log'' : Logging} {t : List Exchange}

/-! ### What an event comes to -/

/-- A writer whose worker is kept has the events written that the filter lets through. -/
theorem emit_of_kept {writer : LogWriter} {filter : Filter} {e : Event}
    (sink : log.sink = some (.file writer filter)) (kept : log.worker = some writer)
    (allowed : filter.allows e.record = true) :
    log.emit e =
      (request .now).bind fun now => writeLine writer.fd (jsonLine now e.record) := by
  rw [emit, sink]
  simp [kept, allowed]

/-- A writer whose worker is not kept has nothing written. -/
theorem emit_of_lost {writer : LogWriter} {filter : Filter} (e : Event)
    (sink : log.sink = some (.file writer filter)) (lost : log.worker ≠ some writer) :
    log.emit e = .done () := by
  rw [emit, sink]
  simp [lost]

/-! ### Opening the file -/

/-- The descriptor under which a file was opened, if one was. -/
def opened? (t : List Exchange) : Option Fd :=
  t.findSome? fun
    | .reply (.openFile _ _) (.ok fd) => some fd
    | _ => none

/-- Making directories comes before a file is opened, and opens none. -/
theorem opened?_of_makeDirectories {path : Bytes} {r : Except SystemError Unit}
    (run : (FileAccess.makeDirectories path).Yields t r) : opened? t = none := by
  have only : (FileAccess.makeDirectories path).Only
      fun c => ∀ path mode, c ≠ .openFile path mode :=
    FileAccess.ensureFrom_only (by nofun) (by nofun) _ _
  refine List.findSome?_eq_none_iff.2 fun x hx => ?_
  obtain ⟨c, r, rfl, other⟩ := run.forall_of_only only x hx
  cases c with
  | openFile path mode => exact absurd rfl (other path mode)
  | _ => rfl

/-- The requests that were interrupted have opened nothing. -/
theorem opened?_opening (path : Bytes) (mode : OpenMode) (answer : Except Errno Fd) (n : ℕ) :
    opened? (Transfer.opening path mode answer n) = answer.toOption := by
  induction n with
  | zero => cases answer <;> rfl
  | succ n ih => exact ih

theorem opened?_of_openFile {path : Bytes} {mode : OpenMode} {r : Except SystemError Fd}
    (run : (FileAccess.openFile path mode).Yields t r) : opened? t = r.toOption := by
  rcases FileAccess.yields_openFile_iff.1 run with
    ⟨-, rfl, rfl⟩ | ⟨-, answer, interrupted, -, rfl, rfl⟩
  · rfl
  · rw [opened?_opening]
    cases answer <;> rfl

theorem opened?_of_openLog {path : Bytes} {r : Except SystemError Fd}
    (run : (openLog path).Yields t r) : opened? t = r.toOption := by
  obtain ⟨t₁, made, t₂, rfl, making, rest⟩ := yields_bind_iff.1 run
  have before := opened?_of_makeDirectories making
  rw [opened?] at before
  rw [opened?, List.findSome?_append, before, Option.none_or]
  cases made with
  | error reason =>
    obtain ⟨rfl, rfl⟩ := yields_done_iff.1 rest
    rfl
  | ok _ => exact opened?_of_openFile rest

/-- Opening the file closes nothing. -/
theorem closed?_of_openLog {path : Bytes} {r : Except SystemError Fd}
    (run : (openLog path).Yields t r) : t.filterMap Exchange.closed? = [] := by
  have only : (openLog path).Only fun c => ∀ fd, c ≠ .close fd := by
    refine Only.bind (FileAccess.ensureFrom_only (by nofun) (by nofun) _ _) fun made => ?_
    split
    · exact trivial
    · exact FileAccess.openFile_only (by nofun) _ _
  refine List.filterMap_eq_nil_iff.2 fun x hx => ?_
  obtain ⟨c, r, rfl, other⟩ := run.forall_of_only only x hx
  cases c with
  | close fd => exact absurd rfl (other fd)
  | _ => rfl

/-! ### One step -/

/-- The ways of a step: what passes between it and the host, its result, and the log afterwards. -/
inductive Happens (log : Logging) : Step → List Exchange → Except SystemError Unit → Logging → Prop
  /-- The file is not opened. -/
  | refused {path : Bytes} {level : LogLevel} {block : List Bytes} {t : List Exchange}
      {reason : SystemError} : opened? t = none → t.filterMap Exchange.closed? = [] →
      Happens log (.start (some path) level block) t (.error reason) log
  | plain {level : LogLevel} {block : List Bytes} :
      Happens log (.start none level block) [] (.ok ())
        (log.decided (filterFor block level) none)
  /-- The file is open, and is closed again if there is no place for the worker. -/
  | filed {path : Bytes} {level : LogLevel} {block : List Bytes} {t : List Exchange} {fd : Fd} :
      opened? t = some fd →
      t.filterMap Exchange.closed? = (if log.worker.isSome then [fd] else []) →
      Happens log (.start (some path) level block) t (.ok ())
        (log.decided (filterFor block level) (some ⟨fd, log.made⟩))
  | shutDown {t : List Exchange} :
      t.filterMap Exchange.closed? = log.worker.toList.map LogWriter.fd →
      Happens log .shutDown t (.ok ()) { log with worker := none }

/-- What a start does once the file is open: the new worker is kept, or it finishes; then the start
is told of. -/
def begin (log : Logging) (path : Bytes) (level : LogLevel) (block : List Bytes) (fd : Fd) :
    Program (Logging × Except SystemError Unit) :=
  (if log.worker.isSome then finish ⟨fd, log.made⟩ else .done ()).bind fun _ =>
    (announce (some path) level).bind fun _ =>
      .done (log.decided (filterFor block level) (some ⟨fd, log.made⟩), .ok ())

theorem perform_start_eq (log : Logging) (path : Bytes) (level : LogLevel) (block : List Bytes) :
    log.perform (.start (some path) level block) = (openLog path).bind fun
      | .error reason => .done (log, .error reason)
      | .ok fd => log.begin path level block fd := by
  rw [perform, start, bind_eq, bind_eq, bind_assoc]
  refine congrArg _ (funext fun opened => ?_)
  cases opened with
  | error reason => rfl
  | ok fd =>
    dsimp only [begin]
    split <;> rfl

theorem happens_of_start {path : Bytes} {level : LogLevel} {block : List Bytes}
    {result : Except SystemError Unit}
    (run : (log.perform (.start (some path) level block)).Yields t (log', result)) :
    log.Happens (.start (some path) level block) t result log' := by
  rw [perform_start_eq] at run
  obtain ⟨t₁, opened, t₂, rfl, opens, rest⟩ := yields_bind_iff.1 run
  have closesNone := closed?_of_openLog opens
  cases opened with
  | error reason =>
    obtain ⟨rfl, same⟩ := yields_done_iff.1 rest
    cases same
    rw [List.append_nil]
    exact .refused (opened?_of_openLog opens) closesNone
  | ok fd =>
    have opensFd := opened?_of_openLog opens
    rw [opened?] at opensFd
    obtain ⟨t₃, _, t₄, rfl, makesRoom, tells⟩ := yields_bind_iff.1 rest
    obtain ⟨r, t₅, rfl, last⟩ := yields_call_iff.1 tells
    obtain ⟨rfl, same⟩ := yields_done_iff.1 last
    cases same
    have closes : t₃.filterMap Exchange.closed? = if log.worker.isSome then [fd] else [] := by
      split at makesRoom
      next kept =>
        obtain ⟨r, t, rfl, last⟩ := yields_call_iff.1 makesRoom
        obtain ⟨rfl, -⟩ := yields_done_iff.1 last
        rw [if_pos kept]
        rfl
      next free =>
        obtain ⟨rfl, -⟩ := yields_done_iff.1 makesRoom
        rw [if_neg free]
        rfl
    refine .filed ?_ ?_
    · rw [opened?, List.findSome?_append, opensFd]
      rfl
    · rw [List.filterMap_append, List.filterMap_append, closesNone, closes]
      exact List.append_nil _

theorem happens_of_shutDown {result : Except SystemError Unit}
    (run : (log.perform .shutDown).Yields t (log', result)) :
    log.Happens .shutDown t result log' := by
  obtain ⟨t₁, ended, t₂, rfl, ends, rest⟩ := yields_bind_iff.1 run
  obtain ⟨rfl, same⟩ := yields_done_iff.1 rest
  cases same
  obtain ⟨sink, _ | writer, made⟩ := log
  · obtain ⟨rfl, rfl⟩ := yields_done_iff.1 ends
    exact .shutDown rfl
  · obtain ⟨r, t, rfl, last⟩ := yields_call_iff.1 ends
    obtain ⟨rfl, rfl⟩ := yields_done_iff.1 last
    exact .shutDown rfl

theorem happens_of_perform {step : Step} {result : Except SystemError Unit}
    (run : (log.perform step).Yields t (log', result)) : log.Happens step t result log' := by
  cases step with
  | start path level block =>
    cases path with
    | none =>
      obtain ⟨rfl, same⟩ := yields_done_iff.1 run
      cases same
      exact .plain
    | some path => exact happens_of_start run
  | shutDown => exact happens_of_shutDown run

/-! ### Later logs -/

/-- The second log is the first at a later time: what was decided stays, and a worker that is kept
was kept before or belongs to a writer that was made since. -/
structure Later (log log' : Logging) : Prop where
  sink : ∀ s, log.sink = some s → log'.sink = some s
  made : log.made ≤ log'.made
  worker : ∀ w, log'.worker = some w → log.worker = some w ∨ log.made ≤ w.serial

theorem Later.refl (log : Logging) : log.Later log := ⟨fun _ h => h, Nat.le_refl _, fun _ => .inl⟩

theorem Later.trans (first : log.Later log') (second : log'.Later log'') : log.Later log'' where
  sink s decided := second.sink s (first.sink s decided)
  made := Nat.le_trans first.made second.made
  worker w kept := by
    rcases second.worker w kept with kept | since
    · exact first.worker w kept
    · exact .inr (Nat.le_trans first.made since)

theorem Happens.later {step : Step} {result : Except SystemError Unit}
    (happens : log.Happens step t result log') : log.Later log' := by
  cases happens with
  | refused => exact .refl log
  | plain => exact ⟨fun _ decided => sink_decided decided _ _, Nat.le_refl _, fun _ => .inl⟩
  | filed =>
    refine ⟨fun _ decided => sink_decided decided _ _, Nat.le_succ _, fun w kept => ?_⟩
    obtain ⟨sink, _ | writer, made⟩ := log
    · cases kept
      exact .inr (Nat.le_refl _)
    · exact .inl kept
  | shutDown => exact ⟨fun _ decided => decided, Nat.le_refl _, nofun⟩

/-- Until something is decided no worker is kept. -/
theorem Happens.worker_eq_none {step : Step} {result : Except SystemError Unit}
    (happens : log.Happens step t result log') (free : log.sink = none → log.worker = none)
    (undecided : log'.sink = none) : log'.worker = none := by
  cases happens with
  | refused => exact free undecided
  | plain => simp [decided] at undecided
  | filed => simp [decided] at undecided
  | shutDown => rfl

/-! ### Step after step -/

/-- One step, and what passed between it and the host. -/
structure Entry where
  before : Logging
  step : Step
  exchanges : List Exchange
  result : Except SystemError Unit
  after : Logging
  run : (before.perform step).Yields exchanges (after, result)

/-- `Course log es log'`: the steps `es`, each beginning with the log that the one before it has
left, lead from `log` to `log'`. -/
inductive Course : Logging → List Entry → Logging → Prop
  | nil (log : Logging) : Course log [] log
  | cons (e : Entry) {es : List Entry} {log : Logging} :
      Course e.after es log → Course e.before (e :: es) log

namespace Entry

theorem happens (e : Entry) : e.before.Happens e.step e.exchanges e.result e.after :=
  happens_of_perform e.run

/-- A start succeeds if it is given no file, or if it opens the one that it is given. -/
theorem result_eq_ok_iff {e : Entry} {path : Option Bytes} {level : LogLevel}
    {block : List Bytes} (starts : e.step = .start path level block) :
    e.result = .ok () ↔ path = none ∨ (opened? e.exchanges).isSome := by
  obtain ⟨before, step, t, result, after, run⟩ := e
  cases starts
  cases happens_of_perform run with
  | refused opened => simp [opened]
  | plain => simp
  | filed opened => simp [opened]

/-- Where a start that succeeds would have records go, if nothing was decided before it. -/
def offer? (e : Entry) : Option LogSink :=
  match e.step, e.result with
  | .start none level block, .ok () => some (.diagnostics (filterFor block level))
  | .start (some _) level block, .ok () =>
    (opened? e.exchanges).map fun fd => .file ⟨fd, e.before.made⟩ (filterFor block level)
  | _, _ => none

theorem isSome_offer?_iff {e : Entry} {path : Option Bytes} {level : LogLevel}
    {block : List Bytes} (starts : e.step = .start path level block) :
    e.offer?.isSome ↔ e.result = .ok () := by
  obtain ⟨before, step, t, result, after, run⟩ := e
  cases starts
  cases happens_of_perform run with
  | refused => simp [offer?]
  | plain => simp [offer?]
  | filed opened => simp [offer?, opened]

/-- What an entry offers is taken if nothing was decided. -/
theorem sink_eq (e : Entry) : e.after.sink = (e.before.sink <|> e.offer?) := by
  obtain ⟨before, step, t, result, after, run⟩ := e
  cases happens_of_perform run with
  | refused => simp [offer?]
  | plain => simp [offer?, decided]
  | filed opened => simp [offer?, decided, opened]
  | shutDown => simp [offer?]

/-- A writer is made with a serial of its own, and its worker is kept if there is a place. -/
theorem of_offer? {e : Entry} {writer : LogWriter} {filter : Filter}
    (offer : e.offer? = some (.file writer filter)) :
    writer.serial = e.before.made ∧ e.after.made = e.before.made + 1 ∧
      e.after.worker = (e.before.worker <|> some writer) := by
  obtain ⟨before, step, t, result, after, run⟩ := e
  cases happens_of_perform run with
  | refused => cases offer
  | plain => cases offer
  | filed opened =>
    simp only [offer?, opened, Option.map_some, Option.some.injEq, LogSink.file.injEq] at offer
    obtain ⟨rfl, -⟩ := offer
    exact ⟨rfl, rfl, rfl⟩
  | shutDown => cases offer

/-- A start keeps the worker that was kept. -/
theorem worker_of_start {e : Entry} {writer : LogWriter} (start : e.step ≠ .shutDown)
    (kept : e.before.worker = some writer) : e.after.worker = some writer := by
  obtain ⟨before, step, t, result, after, run⟩ := e
  cases happens_of_perform run with
  | refused => exact kept
  | plain => exact worker_decided kept _ _
  | filed => exact worker_decided kept _ _
  | shutDown => exact absurd rfl start

/-- The first start that succeeds has the worker of its writer kept, for there is no other. -/
theorem worker_of_first {e : Entry} {writer : LogWriter} {filter : Filter}
    (first : e.before.sink = none) (free : e.before.worker = none)
    (sink : e.after.sink = some (.file writer filter)) :
    e.after.worker = some writer ∧ writer.serial < e.after.made := by
  have offer : e.offer? = some (.file writer filter) := by simpa [first, sink] using e.sink_eq.symm
  obtain ⟨serial, made, worker⟩ := of_offer? offer
  exact ⟨by simpa [free] using worker, by omega⟩

/-- All that a start closes is the file that it has opened itself. -/
theorem opened?_of_closed {e : Entry} {fd : Fd} (start : e.step ≠ .shutDown)
    (closed : fd ∈ e.exchanges.filterMap Exchange.closed?) : opened? e.exchanges = some fd := by
  obtain ⟨before, step, t, result, after, run⟩ := e
  cases happens_of_perform run with
  | refused _ closes =>
    rw [closes] at closed
    cases closed
  | plain => cases closed
  | filed opened closes =>
    rw [closes] at closed
    split at closed
    · cases List.mem_singleton.1 closed
      exact opened
    · cases closed
  | shutDown => exact absurd rfl start

/-- A shutdown lets the worker finish that was kept. -/
theorem finishes {e : Entry} {writer : LogWriter} (shutDown : e.step = .shutDown)
    (kept : e.before.worker = some writer) :
    e.exchanges.filterMap Exchange.closed? = [writer.fd] := by
  obtain ⟨before, step, t, result, after, run⟩ := e
  cases shutDown
  cases happens_of_perform run with
  | shutDown closes =>
    rw [closes, kept]
    rfl

theorem worker_of_shutDown {e : Entry} (shutDown : e.step = .shutDown) :
    e.after.worker = none := by
  obtain ⟨before, step, t, result, after, run⟩ := e
  cases shutDown
  cases happens_of_perform run
  rfl

theorem eq_of_error {e : Entry} {reason : SystemError} (failed : e.result = .error reason) :
    e.after = e.before := by
  obtain ⟨before, step, t, result, after, run⟩ := e
  cases failed
  cases happens_of_perform run
  rfl

end Entry

namespace Course

variable {es es₁ es₂ : List Entry}

theorem later (course : Course log es log') : log.Later log' := by
  induction course with
  | nil log => exact .refl log
  | cons e _ ih => exact e.happens.later.trans ih

/-- A course along one list of steps and another is one along the first and then one along the
second. -/
theorem exists_of_append (course : Course log (es₁ ++ es₂) log'') :
    ∃ log', Course log es₁ log' ∧ Course log' es₂ log'' := by
  induction es₁ generalizing log with
  | nil => exact ⟨log, .nil log, course⟩
  | cons e es₁ ih =>
    cases course with
    | cons _ rest =>
      obtain ⟨log', first, second⟩ := ih rest
      exact ⟨log', .cons e first, second⟩

/-- Around a step of a course there is a course before it and one after it. -/
theorem around {e : Entry} (course : Course log (es₁ ++ e :: es₂) log') :
    Course log es₁ e.before ∧ Course e.after es₂ log' := by
  obtain ⟨_, first, second⟩ := course.exists_of_append
  cases second with
  | cons _ rest => exact ⟨first, rest⟩

/-- The end of a course comes after each of its steps. -/
theorem later_of_mem (course : Course log es log') {e : Entry} (he : e ∈ es) :
    e.after.Later log' := by
  obtain ⟨front, back, rfl⟩ := List.append_of_mem he
  exact course.around.2.later

/-- The beginning of a course comes before each of its steps. -/
theorem later_before (course : Course log es log') {e : Entry} (he : e ∈ es) :
    log.Later e.before := by
  obtain ⟨front, back, rfl⟩ := List.append_of_mem he
  exact course.around.1.later

/-- If nothing was decided before a course, the first offer is taken. -/
theorem sink_eq (course : Course log es log') :
    log'.sink = (log.sink <|> es.findSome? Entry.offer?) := by
  induction course with
  | nil log => simp
  | cons e _ ih =>
    rw [ih, e.sink_eq, List.findSome?_cons]
    cases e.before.sink <;> cases e.offer? <;> rfl

theorem worker_eq_none (course : Course log es log') (free : log.sink = none → log.worker = none) :
    log'.sink = none → log'.worker = none := by
  induction course with
  | nil => exact free
  | cons e _ ih => exact ih (e.happens.worker_eq_none free)

/-- Through starts alone a worker is kept. -/
theorem worker_of_starts (course : Course log es log') {writer : LogWriter}
    (starts : ∀ e ∈ es, e.step ≠ .shutDown) (kept : log.worker = some writer) :
    log'.worker = some writer := by
  induction course with
  | nil => exact kept
  | cons e _ ih =>
    rw [List.forall_mem_cons] at starts
    exact ih starts.2 (Entry.worker_of_start starts.1 kept)

/-- No two starts make the same writer. -/
theorem pairwise_writers (course : Course log es log') :
    es.Pairwise fun e e' => ∀ writer filter filter', e.offer? = some (.file writer filter) →
      e'.offer? ≠ some (.file writer filter') := by
  induction course with
  | nil => exact .nil
  | cons e rest ih =>
    refine .cons (fun e' he' writer filter filter' offer offer' => ?_) ih
    obtain ⟨serial, made, -⟩ := Entry.of_offer? offer
    obtain ⟨serial', -⟩ := Entry.of_offer? offer'
    have later := (rest.later_before he').made
    omega

end Course

/-! ### The worker of the sink -/

/-- What has become of the worker of the sink's writer in the steps `since` the sink was decided,
which have led to `log`. -/
structure Tended (writer : LogWriter) (filter : Filter) (since : List Entry) (log : Logging) :
    Prop where
  /-- It is kept unless there was a shutdown. -/
  kept_iff : log.worker = some writer ↔ ∀ e ∈ since, e.step ≠ .shutDown
  /-- A start closes no file but the one that it has opened. -/
  spared : ∀ e ∈ since, e.step ≠ .shutDown →
    ∀ fd ∈ e.exchanges.filterMap Exchange.closed?, opened? e.exchanges = some fd
  /-- The first shutdown finds it in its place and lets it finish. -/
  finished : ∀ front e back, since = front ++ e :: back → (∀ e ∈ front, e.step ≠ .shutDown) →
    e.step = .shutDown → e.before.worker = some writer ∧
      e.exchanges.filterMap Exchange.closed? = [writer.fd] ∧ e.after.worker = none
  /-- Up to then all that the filter lets through is written to the file, -/
  written : (∀ e ∈ since, e.step ≠ .shutDown) → ∀ told, filter.allows told.record = true →
    log.emit told =
      (request .now).bind fun now => writeLine writer.fd (jsonLine now told.record)
  /-- and from then on nothing is written, however often logging is started again. -/
  lost : ∀ e ∈ since, e.step = .shutDown → ∀ told, log.emit told = .done ()

theorem Course.tended {es : List Entry} {writer : LogWriter} {filter : Filter}
    (course : Course log es log') (sink : log.sink = some (.file writer filter))
    (kept : log.worker = some writer) (serial : writer.serial < log.made) :
    Tended writer filter es log' := by
  have sink' := course.later.sink _ sink
  -- Once a shutdown has emptied the place, only writers that were made since can have it.
  have gone (e : Entry) (he : e ∈ es) (shutDown : e.step = .shutDown) :
      log'.worker ≠ some writer := by
    intro back
    have made := Nat.le_trans (course.later_before he).made e.happens.later.made
    rcases (course.later_of_mem he).worker writer back with still | since
    · rw [Entry.worker_of_shutDown shutDown] at still
      cases still
    · omega
  refine ⟨⟨fun still e he shutDown => gone e he shutDown still,
    fun starts => course.worker_of_starts starts kept⟩,
    fun e _ start fd closed => Entry.opened?_of_closed start closed, ?_,
    fun starts told => emit_of_kept sink' (course.worker_of_starts starts kept),
    fun e he shutDown told => emit_of_lost told sink' (gone e he shutDown)⟩
  rintro front e back rfl starts shutDown
  have there := course.around.1.worker_of_starts starts kept
  exact ⟨there, Entry.finishes shutDown there, Entry.worker_of_shutDown shutDown⟩

/-- What a course that begins without a log keeps to.  Its end `log` is any moment, since a course
can end anywhere. -/
structure KeepsWorker (es : List Entry) (log : Logging) : Prop where
  /-- A start can fail only on its file. -/
  succeeds : ∀ e ∈ es, ∀ path level block, e.step = .start path level block →
    (e.result = .ok () ↔ path = none ∨ (opened? e.exchanges).isSome)
  /-- A start that succeeds offers a sink, and no two offer the same writer of a file. -/
  offers : ∀ e ∈ es, ∀ path level block, e.step = .start path level block →
    (e.offer?.isSome ↔ e.result = .ok ())
  writers : es.Pairwise fun e e' => ∀ writer filter filter',
    e.offer? = some (.file writer filter) → e'.offer? ≠ some (.file writer filter')
  /-- Records go where the first start that has succeeded would have them go, -/
  sink_eq : log.sink = es.findSome? Entry.offer?
  /-- and whatever was decided at some moment stays so. -/
  sink_stays : ∀ e ∈ es, ∀ sink, e.after.sink = some sink → log.sink = some sink
  /-- A start that fails changes neither the sink nor the worker. -/
  unchanged : ∀ e ∈ es, ∀ reason, e.result = .error reason → e.after = e.before
  /-- If records go to a file, some start has decided so, and since then the worker of its writer is
  kept until there is a shutdown. -/
  tended : ∀ writer filter, log.sink = some (.file writer filter) →
    ∃ front e back, es = front ++ e :: back ∧ e.before.sink = none ∧
      e.offer? = some (.file writer filter) ∧ Tended writer filter back log

/-- **The worker of the sink is kept.**  However often logging is started, to files or not, and shut
down, and whichever of the starts fail, the first start that succeeds decides where records go, and
if that is a file, the worker that is kept until the next shutdown is that file's. -/
theorem Course.keepsWorker {es : List Entry} (course : Course {} es log) : KeepsWorker es log where
  succeeds _ _ _ _ _ starts := Entry.result_eq_ok_iff starts
  offers _ _ _ _ _ starts := Entry.isSome_offer?_iff starts
  writers := course.pairwise_writers
  sink_eq := by simpa using course.sink_eq
  sink_stays e he := (course.later_of_mem he).sink
  unchanged _ _ _ failed := Entry.eq_of_error failed
  tended writer filter sink := by
    have offered : es.findSome? Entry.offer? = some (.file writer filter) := by
      simpa [sink] using course.sink_eq.symm
    obtain ⟨front, e, back, rfl, offer, none⟩ := List.findSome?_eq_some_iff.1 offered
    obtain ⟨before, after⟩ := course.around
    have first : e.before.sink = .none := by
      simpa [List.findSome?_eq_none_iff.2 none] using before.sink_eq
    have free := before.worker_eq_none (fun _ => rfl) first
    have taken : e.after.sink = some (.file writer filter) := by simp [e.sink_eq, first, offer]
    obtain ⟨kept, serial⟩ := Entry.worker_of_first first free taken
    exact ⟨front, e, back, rfl, first, offer, after.tended taken kept serial⟩

/-- How a log file is opened. -/
def logMode : OpenMode := { write := true, create := true, append := true, cloexec := true }

/-- A log file that lies where one stands is opened by one request that is not interrupted. -/
theorem yields_openLog (path : Bytes) (beside : FileAccess.parent? path = some [])
    (clean : Bytes.hasNul path = false) (answer : Except Errno Fd) (final : answer ≠ .error .EINTR) :
    (openLog path).Yields [.reply (.openFile path logMode) answer] (answer.mapError .os) := by
  have nothing : FileAccess.ancestry [] = [] := by decide
  rw [openLog, beside, Option.getD_some, FileAccess.makeDirectories, nothing]
  exact Yields.bind (.done (Except.ok ()))
    (FileAccess.yields_openFile_iff.2 (.inr ⟨clean, answer, 0, final, rfl, rfl⟩))

/-- A start that fails, the start that decides, one that is too late, a shutdown, and a start after
it whose file gets the descriptor that was closed: its worker is kept, but it is not that of the
sink, and nothing is written any more. -/
theorem Course.keepsWorker_of_descriptor_again :
    ∃ es log, Course {} es log ∧
      es.map Entry.result = [.error (.os .EACCES), .ok (), .ok (), .ok (), .ok ()] ∧
      log = ⟨some (.file ⟨3, 0⟩ [{ verbosity := 3 }]), some ⟨3, 2⟩, 3⟩ ∧ KeepsWorker es log := by
  let first : Bytes := [0x61]
  let second : Bytes := [0x62]
  let sink : LogSink := .file ⟨3, 0⟩ [{ verbosity := 3 }]
  let log₁ : Logging := ⟨some sink, some ⟨3, 0⟩, 1⟩
  let log₂ : Logging := ⟨some sink, some ⟨3, 0⟩, 2⟩
  let log₃ : Logging := ⟨some sink, none, 2⟩
  let log₄ : Logging := ⟨some sink, some ⟨3, 2⟩, 3⟩
  have opensFirst := yields_openLog first (by decide) (by decide)
  have opensSecond := yields_openLog second (by decide) (by decide)
  have refused : (perform {} (.start (some first) .info [])).Yields
      [.reply (.openFile first logMode) (.error .EACCES)] ({}, .error (.os .EACCES)) := by
    rw [perform_start_eq]
    exact (opensFirst (.error .EACCES) (by decide)).bind (.done _)
  have filed : (perform {} (.start (some first) .info [])).Yields
      [.reply (.openFile first logMode) (.ok 3), .reply (.log (.loggingInitialized first .info)) ()]
      (log₁, .ok ()) := by
    rw [perform_start_eq]
    exact (opensFirst (.ok 3) nofun).bind (.call (.done _))
  have late : (perform log₁ (.start (some second) .debug [])).Yields
      [.reply (.openFile second logMode) (.ok 4), .reply (.close 4) (.ok ()),
        .reply (.log (.loggingInitialized second .debug)) ()] (log₂, .ok ()) := by
    rw [perform_start_eq]
    exact (opensSecond (.ok 4) nofun).bind (.call (.call (.done _)))
  have shutDown : (perform log₂ .shutDown).Yields [.reply (.close 3) (.ok ())] (log₃, .ok ()) :=
    .call (.done _)
  have again : (perform log₃ (.start (some second) .debug [])).Yields
      [.reply (.openFile second logMode) (.ok 3),
        .reply (.log (.loggingInitialized second .debug)) ()] (log₄, .ok ()) := by
    rw [perform_start_eq]
    exact (opensSecond (.ok 3) nofun).bind (.call (.done _))
  have course : Course {} _ log₄ :=
    .cons ⟨{}, _, _, _, {}, refused⟩ (.cons ⟨{}, _, _, _, log₁, filed⟩
      (.cons ⟨log₁, _, _, _, log₂, late⟩ (.cons ⟨log₂, _, _, _, log₃, shutDown⟩
        (.cons ⟨log₃, _, _, _, log₄, again⟩ (.nil _)))))
  exact ⟨_, _, course, rfl, rfl, course.keepsWorker⟩

end Coprocess.Logging
