/-!
# How a coprocess ended

A finished child has either exited with a code or been killed by a signal.  Two exit codes are set
aside by the engine for children that never became the program asked for.
-/

namespace Coprocess

/-- How a child ended. -/
inductive Status where
  | exited (code : Int)
  | signaled (signal : Int) (coreDumped : Bool)
deriving DecidableEq, Repr, Inhabited

namespace Status

/-- The exit code of a child whose command could not be resolved to a program image. -/
def unresolvedCode : Nat := 127

/-- The exit code of a child that could not wire its standard streams. -/
def setupFailedCode : Nat := 125

/-- Whether the child exited with code zero. -/
def isSuccess (s : Status) : Bool := s == .exited 0

/-- The exit code, if the child exited. -/
def code? : Status → Option Int
  | exited code => some code
  | signaled _ _ => none

/-- The signal, if one killed the child. -/
def signal? : Status → Option Int
  | exited _ => none
  | signaled signal _ => some signal

/-- Whether the child reports that nothing on the search path could be executed. -/
def isUnresolved (s : Status) : Bool := s == .exited unresolvedCode

/-- Whether the child reports that it could not wire its standard streams. -/
def isSetupFailure (s : Status) : Bool := s == .exited setupFailedCode

/-- The code a shell would report: the exit code, or 128 plus the signal. -/
def shellCode : Status → Int
  | exited code => code
  | signaled signal _ => 128 + signal

/-- The status in words. -/
def message : Status → String
  | exited code => "exited with status " ++ toString code
  | signaled signal coreDumped =>
    "killed by signal " ++ toString signal ++ (if coreDumped then " (core dumped)" else "")

/-- The status as handle descriptions show it. -/
def describe : Status → String
  | exited code => "Exited(" ++ toString code ++ ")"
  | signaled signal coreDumped =>
    "Signaled \x7b signal: " ++ toString signal ++ ", core_dumped: " ++ toString coreDumped ++
      " \x7d"

end Status

end Coprocess
