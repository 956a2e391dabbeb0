import Coprocess.Proofs.Accounting
import Coprocess.Proofs.HeldOutput

/-!
# The stages of a run

The command line goes through its stages strictly one after another, and the first that fails ends
the run: `Stages` has one constructor for each way.  No stage before the launch forks, and the
launch does so only for a command that it accepts (`Stages.prepared_of_forks`), so that no child is
started unless all before it has succeeded.

A relay that has duplicated the input, and has its thread, closes the coprocess exactly once,
between the copying and its own end, whatever came of the copying (`Relays`).  What comes of both
decides the result (`Settled`), and the result the exit code (`Concludes`).  A process that panics
has a code of its own; `not_forall_without_panic` shows that it may come to that.

The main statement is `main_in_stages`.
-/

namespace Coprocess

open Host Program

variable {t t' t₁ t₂ : List Exchange}

/-! ### Stages that only make requests -/

namespace FileAccess

variable {P : Call → Prop}

theorem named_only {α : Type} {request : Program (Except Errno α)} (only : request.Only P)
    (path : Bytes) : (named path request).Only P := by
  rw [named]
  split
  · exact trivial
  · exact only.bind fun _ => trivial

theorem openFile_only (ofOpen : ∀ path mode, P (.openFile path mode)) (path : Bytes)
    (mode : OpenMode) : (openFile path mode).Only P :=
  named_only (Transfer.openFd_only (ofOpen _ _)) path

section Reading

variable (ofOpen : ∀ path mode, P (.openFile path mode)) (ofRead : ∀ fd count, P (.read fd count))
  (ofClose : ∀ fd, P (.close fd))
include ofOpen ofRead ofClose

theorem read_only (path : Bytes) : (read path).Only P := by
  refine (openFile_only ofOpen path _).bind fun opened => ?_
  split
  · exact trivial
  · refine (Transfer.readAll_only (fun _ => ?_)).bind fun _ => ⟨ofClose _, fun _ => trivial⟩
    exact ⟨ofRead _ _, fun _ => trivial⟩

theorem readText_only (path : Bytes) : (readText path).Only P := by
  refine (read_only ofOpen ofRead ofClose path).bind fun content => ?_
  split
  · exact trivial
  · split <;> exact trivial

end Reading

section Directories

variable (ofMake : ∀ path permissions, P (.makeDirectory path permissions))
  (ofInfo : ∀ path follow, P (.fileInfo path follow))
include ofMake ofInfo

theorem ensureDirectory_only (path : Bytes) : (ensureDirectory path).Only P := by
  have makes : (request (.makeDirectory path 0o777)).Only P := ⟨ofMake _ _, fun _ => trivial⟩
  have looks : (request (.fileInfo path true)).Only P := ⟨ofInfo _ _, fun _ => trivial⟩
  have isDirectory : (isDirectory path).Only P := by
    refine (named_only looks path).bind fun info => ?_
    split <;> exact trivial
  refine (named_only makes path).bind fun made => ?_
  split
  · exact trivial
  · refine isDirectory.bind fun there => ?_
    split <;> exact trivial

theorem ensureEach_only (paths : List Bytes) : (ensureEach paths).Only P := by
  induction paths with
  | nil => exact trivial
  | cons path rest ih =>
    refine (ensureDirectory_only ofMake ofInfo path).bind fun made => ?_
    split
    · exact ih
    · exact trivial

theorem ensureFrom_only (inner outer : List Bytes) : (ensureFrom inner outer).Only P := by
  induction outer generalizing inner with
  | nil => exact ensureEach_only ofMake ofInfo inner
  | cons path outer ih =>
    refine (ensureDirectory_only ofMake ofInfo path).bind fun made => ?_
    split
    · exact ensureEach_only ofMake ofInfo inner
    · split
      · exact ih _
      · exact trivial

end Directories

end FileAccess

/-- Loading settings takes nothing but requests. -/
theorem Settings.load_only (block : List Bytes) (explicit : Option Bytes) :
    (Settings.load block explicit).Only fun _ => True := by
  have readText (path : Bytes) : (FileAccess.readText path).Only fun _ => True :=
    FileAccess.readText_only (fun _ _ => trivial) (fun _ _ => trivial) (fun _ => trivial) path
  have readGlobal : (readGlobal block).Only fun _ => True := by
    refine Only.bind ?_ fun file => ?_
    · rw [globalPath?]
      split
      · exact trivial
      · exact ⟨trivial, fun _ => trivial⟩
    · split
      · exact trivial
      · exact (readText _).bind fun _ => trivial
  refine readGlobal.bind fun _ => ?_
  split
  · split
    · exact trivial
    · exact (readText _).bind fun _ => trivial
  · exact trivial

namespace Logging

/-- Starting a log takes nothing but requests. -/
theorem start_only (log : Logging) (path : Option Bytes) (level : LogLevel) (block : List Bytes) :
    (log.start path level block).Only fun _ => True := by
  cases path with
  | none => exact trivial
  | some path =>
    refine Only.bind (Only.bind ?_ fun made => ?_) fun opened => ?_
    · exact FileAccess.ensureFrom_only (fun _ _ => trivial) (fun _ _ => trivial) _ _
    · split
      · exact trivial
      · exact FileAccess.openFile_only (fun _ _ => trivial) _ _
    · split
      · exact trivial
      · split
        · exact ⟨trivial, fun _ => trivial⟩
        · exact trivial

theorem announce_only (path : Option Bytes) (level : LogLevel) :
    (announce path level).Only fun _ => True := by
  cases path with
  | none => exact trivial
  | some path => exact ⟨trivial, fun _ => trivial⟩

theorem writeLine_only (fd : Fd) (line : String) : (writeLine fd line).Only fun _ => True := by
  refine (Transfer.writeAll_only (fun _ => ?_) _).bind fun _ => trivial
  exact ⟨trivial, fun _ => trivial⟩

/-- Writing an event takes nothing but requests. -/
theorem emit_only (log : Logging) (e : Event) : (log.emit e).Only fun _ => True := by
  rw [emit]
  split
  · exact trivial
  · split
    · exact ⟨trivial, fun _ => writeLine_only _ _⟩
    · exact trivial
  · split
    · exact ⟨trivial, fun _ => writeLine_only _ _⟩
    · exact trivial

end Logging

/-- A log does not fork. -/
theorem Logs.forks_eq {log : Logging} (logs : Logs log t t') : forks t' = forks t := by
  induction logs with
  | nil => rfl
  | told written _ ih =>
    rw [forks_append, forks_of_only written (log.emit_only _), ih]
    rfl
  | reply _ _ ih => exact ih
  | @fork _ r _ _ _ ih => exact congrArg (r :: ·) ih
  | spawn _ ih => exact ih

/-! ### Copying to the end -/

/-- The exchange tells the reader of a handle that the output has ended: with no bytes, or on a
terminal with an input error. -/
def Handle.EndsBy (h : Handle) : Exchange → Prop
  | .reply (.read fd _) answer => h.transport.output.fd = some fd ∧
      (answer = .ok [] ∨ h.transport.isTerminal = true ∧ answer = .error .EIO)
  | _ => False

/-- A reader is answered no bytes exactly if it is told that the output has ended. -/
theorem Handle.endsBy_of_read {h : Handle} {count : Nat} {r : Except SystemError Bytes}
    (run : (h.read count).Yields t r) : r = .ok [] ↔ ∃ x ∈ t, h.EndsBy x := by
  rw [read] at run
  split at run
  · obtain ⟨rfl, rfl⟩ := yields_done_iff.1 run
    simp
  next fd holds =>
    obtain ⟨answer, t, rfl, rest⟩ := yields_call_iff.1 run
    rw [done_bind] at rest
    rcases answer with reason | data
    · dsimp only at rest
      split at rest
      next ended =>
        obtain ⟨rfl, rfl⟩ := yields_done_iff.1 rest
        simpa [EndsBy, holds] using ended
      next other =>
        obtain ⟨rfl, rfl⟩ := yields_done_iff.1 rest
        simpa [EndsBy, holds] using other
    · obtain ⟨rfl, rfl⟩ := yields_done_iff.1 rest
      simp [EndsBy, holds]

namespace FrontEnd

theorem LineBuffer.not_endsBy_of_put {b : LineBuffer} {data : Bytes} (h : Handle)
    {r : Except SystemError Unit × LineBuffer} (run : (b.put data).Yields t r) :
    ¬ ∃ x ∈ t, h.EndsBy x := by
  rintro ⟨x, hx, ends⟩
  obtain ⟨c, r, rfl, writes⟩ := run.forall_of_only
    (put_only (P := fun c => ∀ r, ¬ h.EndsBy (.reply c r)) (fun _ _ => id) b data) x hx
  exact writes r ends

/-- A round of copying is the last, and a success, exactly if the output has ended. -/
theorem endsBy_of_copyRound {h : Handle} {b : LineBuffer}
    {next : LineBuffer ⊕ (Except SystemError Unit × LineBuffer)}
    (run : (Transfer.copyRound h.read LineBuffer.put b).Yields t next) :
    (∃ b', next = .inr (.ok (), b')) ↔ ∃ x ∈ t, h.EndsBy x := by
  obtain ⟨t₁, read, t₂, rfl, reads, rest⟩ := yields_bind_iff.1 run
  have told := Handle.endsBy_of_read reads
  rcases read with reason | _ | ⟨first, others⟩
  · -- The round goes on or fails, and nothing has ended.
    dsimp only at rest
    split at rest <;>
    · obtain ⟨rfl, rfl⟩ := yields_done_iff.1 rest
      simpa using told
  · obtain ⟨rfl, rfl⟩ := yields_done_iff.1 rest
    simpa using told
  · obtain ⟨t₂, ⟨r, b'⟩, t₃, rfl, puts, last⟩ := yields_bind_iff.1 rest
    have untold := LineBuffer.not_endsBy_of_put h puts
    cases r <;>
    · obtain ⟨rfl, rfl⟩ := yields_done_iff.1 last
      simpa [or_and_right, exists_or, untold] using told

/-- **Copying succeeds** exactly if the reader is told at some time that the output has ended. -/
theorem endsBy_of_copy {h : Handle} {b b' : LineBuffer} {r : Except SystemError Unit}
    (run : (Transfer.copy h.read LineBuffer.put b).Yields t (r, b')) :
    r = .ok () ↔ ∃ x ∈ t, h.EndsBy x := by
  rw [Transfer.copy_eq_iterate] at run
  refine run.iterate_induction (P := fun _ t result => result.1 = .ok () ↔ ∃ x ∈ t, h.EndsBy x)
    ?_ ?_
  · rintro b t ⟨r, b'⟩ round
    rw [← endsBy_of_copyRound round]
    simp
  · intro b b₁ t₁ t₂ result round rest
    have goesOn := endsBy_of_copyRound round
    simp only [reduceCtorEq, exists_false, false_iff] at goesOn
    rw [rest]
    simp only [List.mem_append, or_and_right, exists_or, goesOn, false_or]

/-! ### Relaying -/

/-- What a relay comes to that has closed the coprocess, from what came of the copying and of the
close. -/
inductive Settled : Except SystemError Unit → Except Failure Status →
    Except RelayError Status → Prop
  /-- A close that fails decides, whatever came of the copying. -/
  | unreaped {copied : Except SystemError Unit} {reason : Failure} :
      Settled copied (.error reason) (.error (.reaping reason))
  | copied {status : Status} : Settled (.ok ()) (.ok status) (.ok status)
  /-- The reader of the output has gone away. -/
  | readerGone {status : Status} : Settled (.error (.os .EPIPE)) (.ok status) (.ok status)
  | lost {reason : SystemError} {status : Status} (other : reason ≠ .os .EPIPE) :
      Settled (.error reason) (.ok status) (.error (.output reason))

theorem settled_outcome (copied : Except SystemError Unit) (closed : Except Failure Status) :
    Settled copied closed (outcome copied closed) := by
  rcases closed with reason | status
  · exact .unreaped
  rcases copied with reason | _
  · rw [outcome]
    split
    next gone =>
      obtain rfl : reason = .os .EPIPE := by simpa using gone
      exact .readerGone
    next other => exact .lost (by simpa using other)
  · exact .copied

end FrontEnd

/-- The exchange is one that only a close takes part in: it is told that the descriptors of a handle
are closed, or somebody waits for a child. -/
def Host.Exchange.IsOfClose : Exchange → Prop
  | .reply (.log (.descriptorsClosed _)) _ => True
  | .reply (.wait _ _) _ => True
  | _ => False

/-- If no request of a program is of a kind, none of its runs has an exchange of that kind. -/
theorem forall_not_isOfClose_of_only {α : Type} {p : Program α} {a : α} (run : p.Yields t a)
    (only : p.Only fun c => ∀ r, ¬ (Exchange.reply c r).IsOfClose) : ∀ x ∈ t, ¬ x.IsOfClose := by
  intro x hx
  obtain ⟨c, r, rfl, other⟩ := run.forall_of_only only x hx
  exact other r

theorem Aside.forall_not_isOfClose (aside : Aside t) : ∀ x ∈ t, ¬ x.IsOfClose := by
  intro x hx
  obtain ⟨c, r, rfl, isAside⟩ := aside x hx
  unfold Call.IsAside at isAside
  split at isAside
  · exact id
  · exact id
  · exact id
  · exact id
  · cases isAside

namespace FrontEnd

/-- How a relay of a handle goes: by which exchanges, with what result if it does not panic, and
what is still held back. -/
inductive Relays (h : Handle) :
    List Exchange → Option (Except RelayError Status) → LineBuffer → Prop
  /-- The input cannot be duplicated, and nobody closes the coprocess. -/
  | refused {reason : SystemError} {cloning after : List Exchange} :
      h.cloneInput.Yields cloning (.error reason) →
      (∀ x ∈ cloning ++ after, ¬ x.IsOfClose) →
      Relays h (cloning ++ after) (some (.error (.input reason))) {}
  /-- The thread is refused, and nobody closes the coprocess. -/
  | panicked {input : Fd} {thread : Program Unit} {reason : Errno}
      {cloning before after : List Exchange} :
      h.cloneInput.Yields cloning (.ok input) →
      (∀ x ∈ cloning ++ before ++ .spawn thread (.error reason) :: after, ¬ x.IsOfClose) →
      Relays h (cloning ++ before ++ .spawn thread (.error reason) :: after) none {}
  /-- The output is copied, and then the coprocess is closed; nothing before or after that belongs
  to a close. -/
  | closed {input : Fd} {h₁ h₂ : Handle} {copied : Except SystemError Unit}
      {closed : Except Failure Status} {result : Except RelayError Status} {buffer : LineBuffer}
      {cloning before copying closing after : List Exchange} :
      h.cloneInput.Yields cloning (.ok input) →
      (Transfer.copy h.read LineBuffer.put {}).Yields copying (copied, buffer) →
      (copied = .ok () ↔ ∃ x ∈ copying, h.EndsBy x) →
      h₁.close.Yields closing (h₂, closed) → h₁.pid = h.pid → h₁.status = h.status →
      (∀ x ∈ cloning ++ before ++ copying ++ after, ¬ x.IsOfClose) →
      Settled copied closed result →
      Relays h (cloning ++ before ++ copying ++ closing ++ after) (some result) buffer

/-- Closing the input leaves all but the input alone. -/
theorem eq_of_closeInput {h h' : Handle} {ended : Bool}
    (run : h.closeInput.Yields t (h', ended)) :
    h'.read = h.read ∧ h'.pid = h.pid ∧ h'.status = h.status := by
  have changes := Handle.yields_closeInput_iff.1 run
  rcases h with ⟨pid, ⟨input, output⟩ | ⟨master, slaveName⟩, status⟩
  · obtain ⟨-, rfl, -⟩ := changes
    exact ⟨rfl, rfl, rfl⟩
  · obtain ⟨-, rfl, -⟩ := changes
    exact ⟨rfl, rfl, rfl⟩

/-- **Relaying** closes the coprocess once if it can duplicate the input and gets its thread, and
else not at all. -/
theorem relays_of_yields {h : Handle} {result : Option (Except RelayError Status)}
    {buffer : LineBuffer} (run : (relay h).Yields t (result, buffer)) :
    Relays h t result buffer := by
  cases yields_relay_iff.1 run with
  | refused cloned dropped =>
    have cloning := (Handle.aside_of_cloneInput cloned).forall_not_isOfClose
    have dropping := dropped.aside.forall_not_isOfClose
    exact .refused cloned (List.forall_mem_append.2 ⟨cloning, dropping⟩)
  | @panicked input h₁ _ reason closed _ _ noting after cloned inputClosed notes dropped =>
    have cloning := (Handle.aside_of_cloneInput cloned).forall_not_isOfClose
    have ending := (Handle.aside_of_closeInput inputClosed).forall_not_isOfClose
    have noted := (aside_of_panicNote notes).forall_not_isOfClose
    refine .panicked cloned ?_
    simp only [List.forall_mem_append, List.forall_mem_cons]
    exact ⟨⟨cloning, ending⟩, id, id, noted, dropped.aside.forall_not_isOfClose⟩
  | @finished input h₁ _ _ copied closed _ cloned' ending copying closing after cloned inputClosed
      copies closes dropped =>
    obtain ⟨same, pid, status⟩ := eq_of_closeInput inputClosed
    rw [same] at copies
    have cloning := (Handle.aside_of_cloneInput cloned).forall_not_isOfClose
    have before := (Handle.aside_of_closeInput inputClosed).forall_not_isOfClose
    have spawned : ∀ x ∈ [Exchange.spawn (forward input h₁.transport.isTerminal) (.ok ())],
        ¬ x.IsOfClose := by
      simp [Exchange.IsOfClose]
    have between := forall_not_isOfClose_of_only copies (Transfer.copy_only
      (h.read_only fun _ _ _ => id) (LineBuffer.put_only fun _ _ => id) _)
    have note : ∀ x ∈ doneNote closed, ¬ x.IsOfClose := by
      cases closed <;> simp [doneNote, Exchange.IsOfClose]
    have quiet : ∀ x ∈ cloned' ++
        (ending ++ [.spawn (forward input h₁.transport.isTerminal) (.ok ())]) ++
        copying ++ (doneNote closed ++ after), ¬ x.IsOfClose := by
      simp only [List.forall_mem_append]
      exact ⟨⟨⟨cloning, before, spawned⟩, between⟩, note, dropped.aside.forall_not_isOfClose⟩
    have whole := Relays.closed cloned copies (endsBy_of_copy copies) closes pid status quiet
      (settled_outcome copied closed)
    simpa only [List.append_assoc, List.cons_append, List.nil_append] using whole

end FrontEnd

/-! ### Launching -/

/-- Forks are deeds. -/
theorem forks_eq_filterMap_deeds (t : List Exchange) :
    forks t = (deeds t).filterMap fun
      | .forked r => some r
      | _ => none := by
  rw [forks, deeds, List.filterMap_filterMap]
  refine congrArg (fun f => t.filterMap f) (funext fun x => ?_)
  unfold Exchange.deed?
  split
  · rfl
  next other =>
    -- A deed that is no fork is left out.
    split
    · rfl
    · rfl
    · rfl
    next child r => exact absurd rfl (other child r)
    · rfl

namespace Launcher

variable {l : Launcher} {c : Command} {block : List Bytes} {h : Handle}

/-- A launch that succeeds has forked once, and its handle holds a child whose end is not known. -/
def Launched (t : List Exchange) (h : Handle) : Prop := h.status = none ∧ forks t = [.ok h.pid]

theorem launched_of_openPiped (run : (l.openPiped c block).Yields t (.ok h)) : Launched t h := by
  obtain ⟨t₁, planned, t₂, rfl, planning, rest⟩ := yields_bind_iff.1 run
  have childless := forks_of_only planning
    (l.plan_only c block (P := fun _ => True) trivial (fun _ => trivial) fun _ => trivial)
  rcases planned with reason | ⟨kind, plan⟩
  · cases (yields_done_iff.1 rest).2
  obtain ⟨t₃, made, t₄, rfl, making, forking⟩ := yields_bind_iff.1 rest
  have childless' := forks_of_only making
    (makePipes_only (P := fun _ => True) trivial fun _ => trivial)
  rcases made with reason | pipes
  · cases (yields_done_iff.1 forking).2
  obtain ⟨forked, t₅, rfl, parent⟩ := yields_fork_iff.1 forking
  rcases forked with reason | child
  · obtain ⟨_, _, _, -, -, last⟩ := yields_bind_iff.1 parent
    cases (yields_done_iff.1 last).2
  · obtain ⟨⟨⟩, t₆, rfl, told⟩ := yields_call_iff.1 parent
    rw [done_bind] at told
    obtain ⟨t₇, _, _, rfl, closes, last⟩ := yields_bind_iff.1 told
    obtain ⟨rfl, ⟨⟩⟩ := yields_done_iff.1 last
    exact ⟨rfl, by simp [childless, childless', forks_of_closeAll closes]⟩

theorem launched_of_openTerminal {options : TerminalOptions}
    (run : (l.openTerminal c options block).Yields t (.ok h)) : Launched t h := by
  have launch := terminalLaunch_of_yields run
  rw [Launched, forks_eq_filterMap_deeds]
  generalize deeds t = ds at launch
  cases launch with
  | launched => exact ⟨rfl, rfl⟩

/-- Nothing is done for a command that is not accepted. -/
theorem plan_of_refused {reason : Rejection} (refused : c.classify = .error reason) :
    l.plan c block = .done (.error (.rejected reason)) := by
  rw [plan, refused]
  rfl

end Launcher

namespace FrontEnd

open Launcher

variable {i : Invocation} {exec : ExecSettings} {c : Command} {block : List Bytes}

theorem launched_of_openCommand {h : Handle}
    (run : (openCommand i exec c block).Yields t (.ok h)) : Launched t h := by
  rw [openCommand] at run
  split at run
  · exact launched_of_openTerminal run
  · exact launched_of_openPiped run

/-- Only for a command that is accepted does the launch come to a fork. -/
theorem accepted_of_forks {r : Except Failure Handle}
    (run : (openCommand i exec c block).Yields t r) (forked : forks t ≠ []) :
    ∃ kind, c.classify = .ok kind := by
  cases classified : c.classify with
  | ok kind => exact ⟨kind, rfl⟩
  | error reason =>
    have refused : openCommand i exec c block = .done (.error (.rejected reason)) := by
      rw [openCommand]
      split
      · rw [openTerminal, if_neg (by decide), plan_of_refused classified]
        rfl
      · rw [openPiped, plan_of_refused classified]
        rfl
    rw [refused] at run
    obtain ⟨rfl, -⟩ := yields_done_iff.1 run
    exact absurd rfl forked

/-! ### The stages in order -/

/-- What has passed when the command is looked at: settings were loaded, then logging was started,
and that was told. -/
inductive Begun (i : Invocation) (block : List Bytes) (settings : Settings) (log : Logging) :
    List Exchange → Prop
  | intro {loading starting announcing told : List Exchange} :
      (Settings.load block i.config).Yields loading (.ok settings) →
      (Logging.start {} i.logFile (i.level.getD settings.level) block).Yields starting (.ok log) →
      (Logging.announce i.logFile (i.level.getD settings.level)).Yields announcing () →
      Logs log announcing told → Begun i block settings log (loading ++ starting ++ told)

/-- How a run can go: by which exchanges, to what end, what is still held back, and under which log.
The first stage that fails is the last. -/
inductive Stages (i : Invocation) (block : List Bytes) :
    List Exchange → Option (Except Complaint Int) → LineBuffer → Logging → Prop
  | settings {reason : SettingsError} {loading : List Exchange} :
      (Settings.load block i.config).Yields loading (.error reason) →
      Stages i block loading (some (.error (.settings reason))) {} {}
  | logging {settings : Settings} {reason : SystemError} {loading starting : List Exchange} :
      (Settings.load block i.config).Yields loading (.ok settings) →
      (Logging.start {} i.logFile (i.level.getD settings.level) block).Yields starting
        (.error reason) →
      Stages i block (loading ++ starting) (some (.error (.logging reason))) {} {}
  | arguments {settings : Settings} {log : Logging} {before : List Exchange}
      {reason : Invocation.ArgumentsWithShellLine} :
      Begun i block settings log before → i.spec = .error reason →
      Stages i block before (some (.error (.arguments reason))) {} log
  | launch {settings : Settings} {log : Logging} {c : Command} {reason : Failure}
      {before opening opened : List Exchange} :
      Begun i block settings log before → i.spec = .ok c →
      (openCommand i settings.exec c block).Yields opening (.error reason) →
      Logs log opening opened →
      Stages i block (before ++ opened) (some (.error (.launch i.command reason))) {} log
  /-- The coprocess is started, and the only child, and then its streams are relayed. -/
  | relayed {settings : Settings} {log : Logging} {c : Command} {h : Handle}
      {result : Option (Except RelayError Status)} {buffer : LineBuffer}
      {before opening opened relaying relayed : List Exchange} :
      Begun i block settings log before → i.spec = .ok c →
      (openCommand i settings.exec c block).Yields opening (.ok h) → Launched opening h →
      Relays h relaying result buffer → forks relaying = [] →
      Logs log opening opened → Logs log relaying relayed →
      Stages i block (before ++ (opened ++ relayed))
        (result.map fun r => (r.mapError Complaint.relay).map Status.shellCode) buffer log

theorem forks_of_aside (aside : Aside t) : forks t = [] := by
  refine List.filterMap_eq_nil_iff.2 fun x hx => ?_
  obtain ⟨c, r, rfl, -⟩ := aside x hx
  rfl

/-- A relay does not fork. -/
theorem forks_of_relay {h : Handle} {result : Option (Except RelayError Status)}
    {buffer : LineBuffer} (run : (relay h).Yields t (result, buffer)) : forks t = [] := by
  have spawned (thread : Program Unit) (r : Except Errno Unit) (t : List Exchange) :
      forks (.spawn thread r :: t) = forks t := rfl
  cases yields_relay_iff.1 run with
  | refused cloned dropped =>
    rw [forks_append, forks_of_aside (Handle.aside_of_cloneInput cloned),
      forks_of_aside dropped.aside]
    rfl
  | panicked cloned inputClosed notes dropped =>
    have cloning := forks_of_aside (Handle.aside_of_cloneInput cloned)
    have ending := forks_of_aside (Handle.aside_of_closeInput inputClosed)
    have noting := forks_of_aside (aside_of_panicNote notes)
    simp [spawned, cloning, ending, noting, forks_of_aside dropped.aside]
  | @finished _ h₁ _ _ _ closed _ _ _ _ _ _ cloned inputClosed copies closes dropped =>
    have cloning := forks_of_aside (Handle.aside_of_cloneInput cloned)
    have ending := forks_of_aside (Handle.aside_of_closeInput inputClosed)
    have copying := forks_of_only copies (Transfer.copy_only (P := fun _ => True)
      (h₁.read_only fun _ _ => trivial) (LineBuffer.put_only fun _ => trivial) _)
    have closing := forks_of_only closes (h₁.close_only (P := fun _ => True) (fun _ => trivial)
      (fun _ => trivial) (fun _ => trivial) fun _ _ => trivial)
    have note : forks (doneNote closed) = [] := by
      cases closed <;> rfl
    simp [spawned, cloning, ending, copying, closing, note, forks_of_aside dropped.aside]

/-- **Running an invocation** goes through the stages in order. -/
theorem stages_of_run {result : Option (Except Complaint Int)} {buffer : LineBuffer}
    {log : Logging} (run : (FrontEnd.run i block).Yields t ((result, buffer), log)) :
    Stages i block t result buffer log := by
  obtain ⟨loading, settings, _, rfl, loads, rest⟩ := yields_bind_iff.1 run
  rcases settings with reason | settings
  · obtain ⟨rfl, ⟨⟩⟩ := yields_done_iff.1 rest
    rw [List.append_nil]
    exact .settings loads
  obtain ⟨starting, log, _, rfl, starts, rest⟩ := yields_bind_iff.1 rest
  rcases log with reason | log
  · obtain ⟨rfl, ⟨⟩⟩ := yields_done_iff.1 rest
    rw [List.append_nil]
    exact .logging loads starts
  -- From here on the log is in charge.
  obtain ⟨_, served, _, rfl, logged, last⟩ := yields_bind_iff.1 rest
  obtain ⟨rfl, ⟨⟩⟩ := yields_done_iff.1 last
  obtain ⟨_, alone, logs⟩ := logs_of_yields_loggedBy logged
  obtain ⟨announcing, _, serving, rfl, announces, serves⟩ := yields_bind_iff.1 alone
  obtain ⟨told, served, rfl, toldBy, servedBy⟩ := logs.exists_of_append
  have begun := Begun.intro loads starts announces toldBy
  rw [List.append_nil, ← List.append_assoc, ← List.append_assoc]
  rw [serve] at serves
  split at serves
  next reason spec =>
    obtain ⟨rfl, ⟨⟩⟩ := yields_done_iff.1 serves
    cases servedBy
    rw [List.append_nil]
    exact .arguments begun spec
  next c spec =>
    obtain ⟨opening, r, _, rfl, opens, relays⟩ := yields_bind_iff.1 serves
    rcases r with reason | h
    · obtain ⟨rfl, ⟨⟩⟩ := yields_done_iff.1 relays
      rw [List.append_nil] at servedBy
      exact .launch begun spec opens servedBy
    · obtain ⟨relaying, ⟨result, b⟩, _, rfl, relays, last⟩ := yields_bind_iff.1 relays
      obtain ⟨rfl, ⟨⟩⟩ := yields_done_iff.1 last
      rw [List.append_nil] at servedBy
      obtain ⟨opened, relayed, rfl, openedBy, relayedBy⟩ := servedBy.exists_of_append
      exact .relayed begun spec opens (launched_of_openCommand opens) (relays_of_yields relays)
        (forks_of_relay relays) openedBy relayedBy

theorem Begun.forks_eq {settings : Settings} {log : Logging}
    (begun : Begun i block settings log t) : forks t = [] := by
  obtain ⟨loads, starts, announces, told⟩ := begun
  rw [forks_append, forks_append, forks_of_only loads (Settings.load_only _ _),
    forks_of_only starts (Logging.start_only _ _ _ _), told.forks_eq,
    forks_of_only announces (Logging.announce_only _ _)]
  rfl

/-- All that comes before the launch has succeeded, without a fork: settings are loaded, logging is
started, and the command is accepted. -/
def Prepared (i : Invocation) (block : List Bytes) (t : List Exchange) : Prop :=
  ∃ settings log before after c kind, t = before ++ after ∧ Begun i block settings log before ∧
    forks before = [] ∧ i.spec = .ok c ∧ c.classify = .ok kind

/-- **No child before its time.**  A run that comes to a fork is prepared for it. -/
theorem Stages.prepared_of_forks {result : Option (Except Complaint Int)} {buffer : LineBuffer}
    {log : Logging} (stages : Stages i block t result buffer log) (forked : forks t ≠ []) :
    Prepared i block t := by
  cases stages with
  | settings loads => exact absurd (forks_of_only loads (Settings.load_only _ _)) forked
  | logging loads starts =>
    rw [forks_append, forks_of_only loads (Settings.load_only _ _),
      forks_of_only starts (Logging.start_only _ _ _ _)] at forked
    exact absurd rfl forked
  | arguments begun => exact absurd begun.forks_eq forked
  | launch begun spec opens openedBy =>
    rw [forks_append, begun.forks_eq, openedBy.forks_eq, List.nil_append] at forked
    obtain ⟨kind, accepted⟩ := accepted_of_forks opens forked
    exact ⟨_, _, _, _, _, kind, rfl, begun, begun.forks_eq, spec, accepted⟩
  | relayed begun spec opens launched =>
    obtain ⟨kind, accepted⟩ := accepted_of_forks opens (by simp [launched.2])
    exact ⟨_, _, _, _, _, kind, rfl, begun, begun.forks_eq, spec, accepted⟩

/-! ### How it ends -/

/-- What passed has told how the child `pid` ended: it exited, or was killed by a signal that has a
name. -/
inductive EndTold (pid : Pid) (t : List Exchange) : Status → Prop
  | exited {told : Pid} {code : Nat} :
      .reply (.wait (some pid) true) (.ok (told, .exited code)) ∈ t →
      EndTold pid t (.exited code)
  | killed {told : Pid} {signal : Signal} {coreDumped : Bool} : signal ≤ lastNamedSignal →
      .reply (.wait (some pid) true) (.ok (told, .killed signal coreDumped)) ∈ t →
      EndTold pid t (.signaled signal coreDumped)

theorem EndTold.within {pid : Pid} {s : Status} (told : EndTold pid t s) (within : Within t t') :
    EndTold pid t' s := by
  have kept {c : Call} {r : c.Reply} (direct : (Exchange.reply c r).isDirect = true)
      (listed : .reply c r ∈ t) : .reply c r ∈ t' :=
    within.subset (List.mem_filter.2 ⟨listed, direct⟩)
  cases told with
  | exited listed => exact .exited (kept rfl listed)
  | killed named listed => exact .killed named (kept rfl listed)

/-- A close of a handle whose child's end is not known learns it from a wait for that child. -/
theorem endTold_of_close {h h' : Handle} {s : Status} (run : h.close.Yields t (h', .ok s))
    (unknown : h.status = none) : EndTold h.pid t s := by
  obtain ⟨t₁, t₂, rfl, -, reaping⟩ := Handle.yields_close_iff.1 run
  cases reaping with
  | known known => cases known.symm.trans unknown
  | @ended skipped last _ _ passed decided =>
    have listed : .reply (.wait (some h.pid) true) last ∈ t₁ ++ h.closedNote ::
        (Handle.waits h.pid (skipped ++ [last]) ++ [.reply (.log (.waited h.pid s)) ()]) := by
      simp [Handle.waits]
    rw [Handle.verdict.eq_def] at decided
    split at decided
    · split at decided <;> cases decided
    · cases decided
      exact .exited listed
    · split at decided
      next named =>
        cases decided
        exact .killed named listed
      · cases decided
    · split at decided <;> cases decided
    · cases decided
    · cases decided

/-- The same for a relay that knows it. -/
theorem endTold_of_relays {h : Handle} {s : Status} {buffer : LineBuffer}
    (relays : Relays h t (some (.ok s)) buffer) (unknown : h.status = none) :
    EndTold h.pid t s := by
  generalize answered : some (Except.ok s) = result at relays
  cases relays with
  | refused => cases answered
  | panicked => cases answered
  | closed _ _ _ closes pid status _ settled =>
    cases answered
    cases settled <;>
    · have told := endTold_of_close closes (status.trans unknown)
      rw [pid] at told
      exact told.within (((Within.refl _).append_left _).append_right _)

/-- A run with an exit code has started one child, and was told how that ended. -/
theorem Stages.endTold {code : Int} {buffer : LineBuffer} {log : Logging}
    (stages : Stages i block t (some (.ok code)) buffer log) :
    ∃ pid s, forks t = [.ok pid] ∧ EndTold pid t s ∧ code = s.shellCode := by
  generalize answered : some (Except.ok code) = result at stages
  cases stages with
  | settings => cases answered
  | logging => cases answered
  | arguments => cases answered
  | launch => cases answered
  | @relayed _ _ _ h result _ _ _ _ _ _ begun _ _ launched relays childless openedBy relayedBy =>
    rcases result with _ | reason | s
    · cases answered
    · cases answered
    · cases answered
      refine ⟨h.pid, s, ?_, ?_, rfl⟩
      · rw [forks_append, forks_append, begun.forks_eq, openedBy.forks_eq, relayedBy.forks_eq,
          launched.2, childless]
        rfl
      · have told := endTold_of_relays relays launched.1
        exact told.within ((relayedBy.within.append_left _).append_left _)

/-- The code that the process ends with, by what its run came to and what has passed. -/
inductive Concludes (block : List Bytes) (t : List Exchange) :
    Option (Except Complaint Int) → Nat → Prop
  /-- The complaint is shown, or nobody reads it any more, or the process panics over it. -/
  | complained {c : Complaint} {showing : List Exchange} {code : Nat} :
      Complained block c showing code → showing <:+: t → Concludes block t (some (.error c)) code
  | panicked : Concludes block t none panicCode
  /-- The only child has exited.  (No code beyond 255 is ever reported.) -/
  | exited {pid : Pid} {c : Nat} : forks t = [.ok pid] → EndTold pid t (.exited c) →
      Concludes block t (some (.ok c)) (c % 256)
  /-- The only child was killed. -/
  | killed {pid : Pid} {signal : Signal} {coreDumped : Bool} : forks t = [.ok pid] →
      EndTold pid t (.signaled signal coreDumped) →
      Concludes block t (some (.ok (128 + signal))) (128 + signal)

theorem visibleCode_natCast (c : Nat) : visibleCode c = c % 256 := by
  rw [visibleCode]
  omega

theorem concludes_of_endTold {pid : Pid} {s : Status} (forked : forks t = [.ok pid])
    (told : EndTold pid t s) :
    Concludes block t (some (.ok s.shellCode)) (visibleCode s.shellCode) := by
  cases told with
  | @exited _ c listed =>
    show Concludes block t (some (.ok c)) (visibleCode c)
    rw [visibleCode_natCast]
    exact .exited forked (.exited listed)
  | @killed _ signal _ named listed =>
    have small : 128 + signal < 256 :=
      Nat.lt_of_le_of_lt (Nat.add_le_add_left named 128) (by decide)
    have code : visibleCode (128 + signal) = 128 + signal :=
      (visibleCode_natCast (128 + signal)).trans (Nat.mod_eq_of_lt small)
    show Concludes block t (some (.ok (128 + signal))) (visibleCode (128 + signal))
    rw [code]
    exact .killed forked (.killed named listed)

theorem LineBuffer.finish_only (b : LineBuffer) : b.finish.Only fun _ => True :=
  (flush_only (fun _ => trivial) b).bind fun _ => trivial

/-- A shell line that comes with arguments of its own. -/
def rejected : Invocation := { command := "cat | sort", args := ["-r"], level := some .off }

/-- The arguments that ask for it. -/
def rejectedArguments : List Bytes :=
  [Bytes.ofText "coproc", Bytes.ofText "--log-level", Bytes.ofText "off",
    Bytes.ofText "cat | sort", Bytes.ofText "-r"]

theorem parse_rejectedArguments : CommandLine.parse (rejectedArguments.drop 1) = .ok rejected := by
  decide +kernel

/-- A run of it is a complaint, and no worker of a log is kept. -/
theorem exists_run_rejected : ∃ ran log,
    ((run rejected []).allocatedBy Allocator.native ()).Yields ran
      (((some (.error (.arguments ⟨"cat | sort"⟩)), {}), log), ()) ∧ log.worker = none := by
  apply Exists.intro
  apply Exists.intro
  apply And.intro
  · apply Yields.call (r := (none : Option Bytes))
    exact .done _
  · rfl

/-- The complaint may be refused. -/
theorem exists_main_rejected {reason : Errno} (givesUp : GivesUp reason)
    (present : reason ≠ .EPIPE) : ∃ first ran rest log,
      (main rejectedArguments []).Yields (first ++ (ran ++ rest)) panicCode ∧
      ((run rejected []).allocatedBy Allocator.native ()).Yields ran
        (((some (.error (.arguments ⟨"cat | sort"⟩)), {}), log), ()) := by
  obtain ⟨ran, log, runs, unkept⟩ := exists_run_rejected
  obtain ⟨complaining, complains⟩ := exists_complain_of_refused givesUp present []
    (.arguments ⟨"cat | sort"⟩)
  have shutsDown : log.shutDown.Yields [] log := by
    rw [Logging.shutDown, unkept]
    exact .done log
  have ends : (endRun [] log (some (.error (.arguments ⟨"cat | sort"⟩)))).Yields
      complaining panicCode := shutsDown.bind complains
  have finishes : (LineBuffer.finish {}).Yields ([] ++ []) () := by
    apply Yields.stop <;> exact .done _
  refine ⟨[.reply (.setDisposition pipeSignal .ignored) (.ok .default)], ran, complaining ++ [],
    log, ?_, runs⟩
  rw [main, parse_rejectedArguments]
  exact .call (runs.bind (ends.bind (finishes.bind (.done panicCode))))

/-- A relay that panics has closed nothing. -/
theorem Relays.forall_not_isOfClose {h : Handle} {b : LineBuffer} (relays : Relays h t none b) :
    ∀ x ∈ t, ¬ x.IsOfClose := by
  generalize answered : (none : Option (Except RelayError Status)) = result at relays
  cases relays with
  | refused => cases answered
  | panicked _ quiet => exact quiet
  | closed => cases answered

/-- A relay may be refused its thread. -/
theorem exists_relay_of_refused {reason : Errno} (givesUp : GivesUp reason) :
    ∃ h input cloning rest, h.cloneInput.Yields cloning (.ok input) ∧
      (relay h).Yields (cloning ++ rest) (none, {}) := by
  let h : Handle := ⟨9, .pipes (.holding 4) (.holding 5), none⟩
  let h₁ : Handle := ⟨9, .pipes .empty (.holding 5), none⟩
  have cloned : h.cloneInput.Yields [.reply (.duplicate 4 3 true) (.ok 7)] (.ok 7) :=
    .call (.done _)
  have inputClosed : h.closeInput.Yields [.reply (.close 4) (.ok ())] (h₁, true) :=
    .call (.done _)
  obtain ⟨noting, notes⟩ := exists_panicNote_of_refused givesUp (spawnReason .EAGAIN)
  have dropped : h₁.Dropping [.reply (.log (.droppedUnreaped 9)) (), .reply (.close 5) (.ok ())] :=
    ⟨_, rfl, [], _, rfl, rfl, _, rfl⟩
  have panicked : Relayed h ([_] ++ [_] ++ .spawn _ (.error .EAGAIN) ::
      .reply (.close 7) (.ok ()) :: (noting ++ [_, _])) none {} :=
    .panicked cloned inputClosed notes dropped
  have relays := yields_relay_iff.2 panicked
  rw [List.append_assoc] at relays
  exact ⟨h, 7, _, _, cloned, relays⟩

end FrontEnd

end Coprocess
