import Coprocess.Environment
import Coprocess.FileAccess
import Coprocess.Logging.Filter
import Coprocess.Logging.Line
import Coprocess.Transport

/-!
# Logging

Where the records of a process go.  Logging is started with or without a file; the first start that
succeeds decides, and none after it changes that.  Each start with a file makes a writer with a
worker of its own.  The worker is kept alive until logging is shut down, and `Logging.worker` says
whose that is.  There is one place for it, so that the worker of a later writer is kept only if none
is, and otherwise finishes at once.

`Program.loggedBy` puts a log in charge of what a program tells.
-/

namespace Coprocess

open Host

/-- What lines are written to a file by. -/
structure LogWriter where
  fd : Fd
  /-- How many writers were made before.  A number that was closed can be a descriptor again, and
  this tells the two writers apart. -/
  serial : Nat
deriving DecidableEq, Repr

/-- Where records go, and what of them. -/
inductive LogSink where
  /-- Plain lines among the diagnostics. -/
  | diagnostics (filter : Logging.Filter)
  /-- JSON lines at the end of a file. -/
  | file (writer : LogWriter) (filter : Logging.Filter)
deriving DecidableEq, Repr

/-- The log of a process. -/
structure Logging where
  sink : Option LogSink := none
  /-- The writer whose worker is kept alive. -/
  worker : Option LogWriter := none
  /-- How many writers were made. -/
  made : Nat := 0
deriving DecidableEq, Repr

namespace Logging

/-! ### Starting -/

/-- The filter that an environment block asks for, or else the one for a level.  One that cannot be
read is none. -/
def filterFor (block : List Bytes) (level : LogLevel) : Filter :=
  let asked := do
    let value ← Environment.valueOf "RUST_LOG" block
    Filter.ofText? (← value.text?)
  asked.getD (Filter.ofLevel level)

/-- Opens a log file for lines to be added to, making the directories it lies in. -/
def openLog (path : Bytes) : Program (Except SystemError Fd) := do
  match ← FileAccess.makeDirectories ((FileAccess.parent? path).getD []) with
  | .error reason => return .error reason
  | .ok () => FileAccess.openFile path { write := true, create := true, append := true }

/-- The log after a start that succeeded: what was decided before stays. -/
def decided (log : Logging) (filter : Filter) : Option LogWriter → Logging
  | none => { log with sink := log.sink <|> some (.diagnostics filter) }
  | some writer =>
    { sink := log.sink <|> some (.file writer filter)
      worker := log.worker <|> some writer
      made := log.made + 1 }

theorem sink_decided {log : Logging} {sink : LogSink} (h : log.sink = some sink) (filter : Filter)
    (writer : Option LogWriter) : (log.decided filter writer).sink = some sink := by
  cases writer <;> simp [decided, h]

theorem worker_decided {log : Logging} {writer : LogWriter} (h : log.worker = some writer)
    (filter : Filter) (other : Option LogWriter) :
    (log.decided filter other).worker = some writer := by
  cases other <;> simp [decided, h]

/-- Lets the worker of a writer finish.  What it has taken is in the file by then, and the file is
closed. -/
def finish (writer : LogWriter) : Program Unit := do
  let _ ← Program.request (.close writer.fd)

/-- Starts logging, to a file if one is given. -/
def start (log : Logging) (path : Option Bytes) (level : LogLevel) (block : List Bytes) :
    Program (Except SystemError Logging) := do
  match path with
  | none => return .ok (log.decided (filterFor block level) none)
  | some path =>
    match ← openLog path with
    | .error reason => return .error reason
    | .ok fd =>
      let writer := { fd, serial := log.made }
      -- A worker that is kept already is never replaced.
      if log.worker.isSome then finish writer
      return .ok (log.decided (filterFor block level) (some writer))

/-- Tells that logging to a file was started. -/
def announce (path : Option Bytes) (level : LogLevel) : Program Unit :=
  match path with
  | none => return ()
  | some path => Program.tell (.loggingInitialized path level)

/-- Lets the worker that is kept finish: what is told from then on is lost. -/
def shutDown (log : Logging) : Program Logging := do
  match log.worker with
  | none => return log
  | some writer =>
    finish writer
    return { log with worker := none }

/-- What a process does about its log. -/
inductive Step where
  | start (path : Option Bytes) (level : LogLevel) (block : List Bytes)
  | shutDown

/-- Carries out a step, and gives the log back with what came of it. -/
def perform (log : Logging) : Step → Program (Logging × Except SystemError Unit)
  | .start path level block => do
    match ← log.start path level block with
    | .error reason => return (log, .error reason)
    | .ok log =>
      announce path level
      return (log, .ok ())
  | .shutDown => do return (← log.shutDown, .ok ())

/-! ### Writing -/

/-- Writes a line as far as it is taken. -/
def writeLine (fd : Fd) (line : String) : Program Unit := do
  let _ ← Transfer.writeAll (Transfer.writeFd fd) (Bytes.ofText line)

/-- Writes an event to where it belongs. -/
def emit (log : Logging) (e : Event) : Program Unit := do
  match log.sink with
  | none => return ()
  | some (.diagnostics filter) =>
    if filter.allows e.record then
      let now ← Program.request .now
      writeLine standardError (plainLine now e.record)
  | some (.file writer filter) =>
    -- Without its worker, nothing reaches the file any more.
    if filter.allows e.record && log.worker == some writer then
      let now ← Program.request .now
      writeLine writer.fd (jsonLine now e.record)

end Logging

/-- The program with a log in charge of what it tells. -/
def Host.Program.loggedBy (log : Logging) : {α : Type} → Program α → Program α
  | _, done value => done value
  | _, call (.log e) next => (log.emit e).bind fun r => (next r).loggedBy log
  | _, call c next => call c fun r => (next r).loggedBy log
  | _, fork child next => fork (child.loggedBy log) fun r => (next r).loggedBy log
  | _, spawn thread next => spawn (thread.loggedBy log) fun r => (next r).loggedBy log
  | _, loop s body next => loop s (fun s => (body s).loggedBy log) fun r => (next r).loggedBy log

end Coprocess
