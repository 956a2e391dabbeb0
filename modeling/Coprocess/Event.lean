import Coprocess.Command
import Coprocess.Settings
import Coprocess.Status
import Coprocess.Text.Quoted

/-!
# Events

What the engine does is told as events.  An event is a value with the facts it carries;
`Event.record` gives the fields by which it is logged, so that every sink shows the same record.  A
field's value is kept apart by how it is shown: a constant name is quoted in plain lines, a computed
text is not, and a number is a number.
-/

namespace Coprocess

/-- The part of the engine that tells of an event; log filters select by it. -/
inductive Origin where
  | commandLine
  | resolver
  | search
  | launch
  | lifecycle
  | terminal
  | logging
deriving DecidableEq, Repr

/-- The path by which a log filter names the part. -/
def Origin.target : Origin → String
  | commandLine => "coproc"
  | resolver => "coproc_core::exec"
  | search => "coproc_core::exec::search"
  | launch => "coproc_core::launch"
  | lifecycle => "coproc_core::lifecycle"
  | terminal => "coproc_core::adapters::pty"
  | logging => "coproc_core::logging"

/-- Something the engine did. -/
inductive Event where
  | candidateSkipped (length limit : Nat)
  | candidatesResolved (command : String) (count : Nat) (searchPath : Bytes)
  | openedPiped (pid : Nat) (command : String) (kind : Command.Kind)
  | openedTerminal (pid : Nat) (command : String) (kind : Command.Kind) (slave : String)
  | terminalAllocated (slave : String)
  | terminalReleased (slave : String)
  /-- Releasing the slave failed; `during` is the part that asked for it. -/
  | releaseFailed (during : Origin) (slave : String) (reason : String)
  | descriptorsClosed (pid : Nat)
  | waited (pid : Nat) (status : Status)
  | droppedUnreaped (pid : Nat)
  | loggingInitialized (path : Bytes) (level : LogLevel)
  | commandLineDone (status : Status)
  | inputForwardingEnded (reason : String)
deriving DecidableEq, Repr

/-- The severity of a record, least severe first. -/
inductive Severity where
  | trace
  | debug
  | info
  | warn
  | error
deriving DecidableEq, Repr

namespace Severity

/-- The name under which records show it. -/
def name : Severity → String
  | trace => "TRACE"
  | debug => "DEBUG"
  | info => "INFO"
  | warn => "WARN"
  | error => "ERROR"

/-- How many of the five severities are at least as grave: the threshold that lets it through. -/
def verbosity : Severity → Nat
  | error => 1
  | warn => 2
  | info => 3
  | debug => 4
  | trace => 5

end Severity

/-- The value of a field. -/
inductive FieldValue where
  /-- A constant name. -/
  | name (s : String)
  /-- A computed text. -/
  | text (s : String)
  | number (n : Int)
deriving DecidableEq, Repr

/-- An event as it is logged. -/
structure Record where
  severity : Severity
  origin : Origin
  message : Option String := none
  fields : List (String × FieldValue)
deriving DecidableEq, Repr

/-- The fields by which an event is logged, in order. -/
def Event.record : Event → Record
  | candidateSkipped length limit =>
    { severity := .debug, origin := .search, message := some "candidate path exceeds limit"
      fields := [("event", .name "coproc_candidate_skipped"), ("len", .number length),
        ("limit", .number limit)] }
  | candidatesResolved command count searchPath =>
    { severity := .debug, origin := .resolver
      fields := [("event", .name "coproc_resolve_candidates"), ("command", .text command),
        ("count", .number count), ("search_path", .text (Text.quotedBytes searchPath))] }
  | openedPiped pid command kind =>
    { severity := .info, origin := .launch
      fields := [("event", .name "coproc_open_piped"), ("pid", .number pid),
        ("command", .text command), ("kind", .text kind.name)] }
  | openedTerminal pid command kind slave =>
    { severity := .info, origin := .launch
      fields := [("event", .name "coproc_open_pty"), ("pid", .number pid),
        ("command", .text command), ("kind", .text kind.name), ("slave", .text slave)] }
  | terminalAllocated slave =>
    { severity := .debug, origin := .terminal, message := some "allocated pty"
      fields := [("event", .name "pty_open"), ("slave", .text slave)] }
  | terminalReleased slave =>
    { severity := .debug, origin := .terminal, message := some "released pty slave"
      fields := [("event", .name "pty_release"), ("slave", .text slave)] }
  | releaseFailed during slave reason =>
    { severity := .warn, origin := during
      fields := [("event", .name "pty_release_failed"), ("slave", .text slave),
        ("error", .text reason)] }
  | descriptorsClosed pid =>
    { severity := .debug, origin := .lifecycle, message := some "descriptors closed"
      fields := [("event", .name "coproc_close"), ("pid", .number pid)] }
  | waited pid status =>
    { severity := .info, origin := .lifecycle
      fields := [("event", .name "coproc_wait"), ("pid", .number pid),
        ("status", .text status.message)] }
  | droppedUnreaped pid =>
    { severity := .warn, origin := .lifecycle, message := some "coprocess dropped without close"
      fields := [("event", .name "coproc_dropped_unreaped"), ("pid", .number pid)] }
  | loggingInitialized path level =>
    { severity := .info, origin := .logging, message := some "logging initialized"
      fields := [("event", .name "logging_initialized"), ("logs_path", .text path.lossyText),
        ("level", .text level.title)] }
  | commandLineDone status =>
    { severity := .debug, origin := .commandLine
      fields := [("event", .name "coproc_cli_done"), ("status", .text status.message)] }
  | inputForwardingEnded reason =>
    { severity := .debug, origin := .commandLine
      fields := [("event", .name "coproc_cli_stdin_closed"), ("error", .text reason)] }

end Coprocess
