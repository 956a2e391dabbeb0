import Coprocess.Bytes
import Coprocess.Errno

/-!
# What can go wrong

Every failure is a cause, and each type of cause has one function that words it.  `Rejection` is a
breach of the launch contract, found before anything is created.  `SystemError` is what an operation
on a file or stream reports.  `SettingsError` is a configuration that cannot be used.  `Failure` is
what the engine hands to its caller, and wraps the others.

`Failure.causes` lists the texts of the underlying causes, outermost first; the texts are
cumulative, so a cause repeats what its wrapper already says.
-/

namespace Coprocess

/-! ### The launch contract -/

/-- Why a launch request was refused before anything was created. -/
inductive Rejection where
  | emptyCommand
  | nulByte
  | argvWithShellLine
  | missingArgv
  | emptyArgv
  | slaveNameCapacity (capacity minimum : Nat)
deriving DecidableEq, Repr

/-- The wording of a rejection. -/
def Rejection.message : Rejection → String
  | emptyCommand => "command must not be empty"
  | nulByte => "command, arguments and environment must not contain NUL bytes"
  | argvWithShellLine => "command contains shell meta characters, argv must be absent"
  | missingArgv => "command names a program, argv must be present"
  | emptyArgv => "argv must contain at least the program name"
  | slaveNameCapacity capacity minimum =>
    "slave name capacity " ++ toString capacity ++ " is below the minimum of " ++
      toString minimum ++ " bytes"

/-! ### Files and streams -/

/-- Why an operation on a file or stream failed. -/
inductive SystemError where
  /-- The system refused a request. -/
  | os (reason : Errno)
  /-- The path holds a zero byte and so names no file. -/
  | nulInPath
  /-- The stream was to hold text and does not. -/
  | notText
  /-- The descriptor of the coprocess was closed before. -/
  | closed
  /-- The stream accepted no bytes at all. -/
  | nothingWritten
  /-- The deadline passed with `got` of `wanted` bytes read. -/
  | timedOut (got wanted : Nat)
deriving DecidableEq, Repr

namespace SystemError

/-- The wording of a file or stream error. -/
def message : SystemError → String
  | os reason => reason.text
  | nulInPath => "file name contained an unexpected NUL byte"
  | notText => "stream did not contain valid UTF-8"
  | closed => "coprocess descriptor is closed"
  | nothingWritten => "failed to write whole buffer"
  | timedOut got wanted =>
    "read " ++ toString got ++ " of " ++ toString wanted ++ " bytes before timeout"

/-- The error number behind the error, where the system gave one. -/
def errno? : SystemError → Option Errno
  | os reason => some reason
  | _ => none

end SystemError

/-! ### Settings -/

/-- Why the settings could not be loaded. -/
inductive SettingsError where
  /-- The file asked for could not be read. -/
  | unreadable (reason : SystemError)
  /-- A file is not a settings document. -/
  | malformed
  /-- The shell is not given by an absolute path. -/
  | relativeShell (shell : Bytes)
deriving DecidableEq, Repr

namespace SettingsError

/-- The wording of a settings error. -/
def message : SettingsError → String
  | unreadable reason => "io: " ++ reason.message
  | malformed => "toml: not a settings document"
  | relativeShell shell => "shell `" ++ shell.lossyText ++ "` must be an absolute path"

/-- The texts of what lies behind the error. -/
def causes : SettingsError → List String
  | unreadable reason => [reason.message]
  | malformed => ["not a settings document"]
  | relativeShell _ => []

end SettingsError

/-! ### The engine -/

/-- What the engine reports to its caller. -/
inductive Failure where
  | rejected (reason : Rejection)
  /-- The system call `operation` failed. -/
  | system (operation : String) (reason : Errno)
  | slaveNameTooLong (name : String) (capacity : Nat)
  | settings (reason : SettingsError)
deriving DecidableEq, Repr

namespace Failure

/-- The wording of a failure. -/
def message : Failure → String
  | rejected reason => "invalid argument: " ++ reason.message
  | system operation reason => operation ++ " failed: " ++ reason.brief
  | slaveNameTooLong name capacity =>
    "slave device name `" ++ name ++ "` does not fit in " ++ toString capacity ++ " bytes"
  | settings reason => "config: " ++ reason.message

/-- The texts of what lies behind the failure, outermost first. -/
def causes : Failure → List String
  | rejected reason => [reason.message]
  | system _ reason => [reason.brief]
  | slaveNameTooLong _ _ => []
  | settings reason => reason.message :: reason.causes

/-- The error number a failure corresponds to: a rejection is an invalid argument, a name that does
not fit is out of range, and settings have none. -/
def errno? : Failure → Option Errno
  | rejected _ => some .EINVAL
  | system _ reason => some reason
  | slaveNameTooLong _ _ => some .ERANGE
  | settings _ => none

/-- Whether the request itself was at fault. -/
def isInvalidArgument : Failure → Bool
  | rejected _ => true
  | _ => false

/-- A failed file operation seen as a failure of `operation`; one without an error number counts as
an I/O error. -/
def ofSystemError (operation : String) (reason : SystemError) : Failure :=
  .system operation ((reason.errno?.map fun e => Errno.ofCode e.code).getD .EIO)

end Failure

end Coprocess
