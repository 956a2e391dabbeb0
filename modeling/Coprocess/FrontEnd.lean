import Coprocess.Allocator
import Coprocess.CommandLine
import Coprocess.FrontEnd.Relay
import Coprocess.Launch
import Coprocess.Logging
import Coprocess.Settings.Loading
import Coprocess.Text.Plain

/-!
# The front end

The command `coproc`: it runs a command as a coprocess, relays its own standard streams to it and
ends with its exit code.  The stages come strictly one after another, and the first that fails ends
the run with a complaint: settings, logging, command, launch, relaying.

A process that panics ends with a code of its own (`panicCode`).  That happens in two places, where
the thread for the input is refused and where a complaint cannot be written.
-/

namespace Coprocess.FrontEnd

open Host

/-! ### Complaints -/

/-- Why a run failed. -/
inductive Complaint where
  | settings (reason : SettingsError)
  | logging (reason : SystemError)
  | arguments (reason : Invocation.ArgumentsWithShellLine)
  | launch (command : String) (reason : Failure)
  | relay (reason : RelayError)
deriving DecidableEq, Repr

namespace Complaint

/-- The texts of a complaint, outermost first. -/
def texts : Complaint → List String
  | settings reason => "failed to load configuration" :: reason.message :: reason.causes
  | logging reason => ["failed to initialize logging", reason.message]
  | arguments reason => [reason.message]
  | launch command reason =>
    ("failed to start `" ++ command ++ "`") :: reason.message :: reason.causes
  | relay (.input reason) => ["failed to duplicate input", reason.message]
  | relay (.reaping reason) => "failed to reap coprocess" :: reason.message :: reason.causes
  | relay (.output reason) => ["failed to copy output", reason.message]

/-- The wording of a complaint. -/
def message (c : Complaint) : String := String.intercalate ": " c.texts

end Complaint

/-- Whether diagnostics are colored, in a process with the given environment block, although they do
not go to a terminal. -/
def isColored (block : List Bytes) : Bool :=
  let plain := (Environment.valueOf "NO_COLOR" block).any (!·.isEmpty)
  !plain && (Environment.valueOf "CLICOLOR_FORCE" block).any (· != [0x30])

/-- The line that a complaint is shown as. -/
def complaintLine (block : List Bytes) (c : Complaint) : String :=
  if isColored block then "\x1b[31m" ++ c.message ++ "\x1b[39m\n" else Text.plain c.message ++ "\n"

/-! ### Running -/

/-- What a run comes to: the exit code of the coprocess or a complaint, or `none` if the process
panics, with the output that is still held back. -/
abbrev Result := Option (Except Complaint Int) × LineBuffer

/-- The result of a run that fails before there is any output. -/
def failed (c : Complaint) : Result := (some (.error c), {})

/-- Starts the command of an invocation. -/
def openCommand (i : Invocation) (exec : ExecSettings) (c : Command) (block : List Bytes) :
    Program (Except Failure Handle) :=
  if i.terminal then Launcher.openTerminal { exec } c {} block
  else Launcher.openPiped { exec } c block

/-- The stages that come after logging was started. -/
def serve (i : Invocation) (exec : ExecSettings) (block : List Bytes) : Program Result := do
  match i.spec with
  | .error reason => return failed (.arguments reason)
  | .ok c =>
    match ← openCommand i exec c block with
    | .error reason => return failed (.launch i.command reason)
    | .ok handle =>
      let (result, buffer) ← relay handle
      return (result.map fun r => r.mapError .relay |>.map Status.shellCode, buffer)

/-- Carries out an invocation, and gives back the log with what it comes to. -/
def run (i : Invocation) (block : List Bytes) : Program (Result × Logging) := do
  match ← Settings.load block i.config with
  | .error reason => return (failed (.settings reason), {})
  | .ok settings =>
    let level := i.level.getD settings.level
    match ← Logging.start {} i.logFile level block with
    | .error reason => return (failed (.logging reason), {})
    | .ok log =>
      let result ← Program.loggedBy log do
        Logging.announce i.logFile level
        serve i settings.exec block
      return (result, log)

/-! ### The process -/

/-- Answers arguments that are no invocation, as far as that can be written. -/
def answerUsage (e : UsageError) : Program Unit := do
  let _ ← match e with
    | .help => print standardOutput CommandLine.help
    | .version => print standardOutput CommandLine.version
    | _ =>
      print standardError
        "error: the arguments cannot be used\n\nFor more information, try '--help'.\n"

/-- The signal for writing where nobody reads. -/
def pipeSignal : Signal := 13

/-- The exit code of a process as its parent sees it. -/
def visibleCode (code : Int) : Nat := (code % 256).toNat

/-- The exit code of a process that complains. -/
def complaintCode : Nat := 1

/-- The exit code of a process that panics. -/
def panicCode : Nat := 101

/-- Shows a complaint, and says what the process ends with.  That nobody reads it any more does no
harm, but the process panics if it cannot be written for another reason. -/
def complain (block : List Bytes) (c : Complaint) : Program Nat := do
  match ← print standardError (complaintLine block c) with
  | .ok () => return complaintCode
  | .error reason =>
    if reason == .os .EPIPE then return complaintCode
    else
      panicNote ("failed printing to stderr: " ++ reason.message)
      return panicCode

/-- Ends the process after a run: the code that it ends with.  A process that panics does not come
to shut its log down. -/
def endRun (block : List Bytes) (log : Logging) (result : Option (Except Complaint Int)) :
    Program Nat := do
  match result with
  | none => return panicCode
  | some (.ok code) =>
    let _ ← log.shutDown
    return visibleCode code
  | some (.error c) =>
    let _ ← log.shutDown
    complain block c

/-- What the process does, given its arguments, its own name first, and its environment block, and
the code that it ends with. -/
def main (argv block : List Bytes) : Program Nat := do
  let _ ← Program.request (.setDisposition pipeSignal .ignored)
  match CommandLine.parse (argv.drop 1) with
  | .error e =>
    answerUsage e
    return e.exitCode
  | .ok i =>
    let (((result, buffer), log), ()) ← (run i block).allocatedBy Allocator.native ()
    let code ← endRun block log result
    -- Output that was held back goes out last, after a complaint.
    buffer.finish
    return code

end Coprocess.FrontEnd
