import Coprocess.Host.Process
import Coprocess.Shell.Syntax

/-!
# Signals by name

The names by which commands know signals, without the letters that all of them begin with, and what
is said of a process that one of them ended.
-/

namespace Coprocess.Tools

open Host Shell

/-- The names of the signals from number 1 on; a signal without a name has its number there. -/
def signalNames : List String := [
  "HUP", "INT", "QUIT", "ILL", "TRAP", "ABRT", "BUS", "FPE", "KILL", "USR1", "SEGV", "USR2", "PIPE",
  "ALRM", "TERM", "16", "CHLD", "CONT", "STOP", "TSTP", "TTIN", "TTOU", "URG", "XCPU", "XFSZ",
  "VTALRM", "PROF",
  "WINCH", "IO", "PWR", "SYS", "32", "33", "RTMIN"] ++
    (List.range 15).map (fun n => "RTMIN+" ++ toString (n + 1)) ++
    (List.range 14).map (fun n => "RTMAX-" ++ toString (14 - n)) ++ ["RTMAX"]

/-- What is said of a process that a signal ended, from number 1 on. -/
def signalTexts : List String := [
  "Hangup", "Interrupt", "Quit", "Illegal instruction", "Trace/breakpoint trap", "Aborted",
  "Bus error", "Floating point exception", "Killed", "User defined signal 1", "Segmentation fault",
  "User defined signal 2", "Broken pipe", "Alarm clock", "Terminated", "Stack fault",
  "Child exited", "Continued", "Stopped (signal)", "Stopped", "Stopped (tty input)",
  "Stopped (tty output)", "Urgent I/O condition", "CPU time limit exceeded",
  "File size limit exceeded", "Virtual timer expired", "Profiling timer expired", "Window changed",
  "I/O possible", "Power failure", "Bad system call"]

/-- A byte in upper case. -/
def upper (c : UInt8) : UInt8 := if 97 ≤ c && c ≤ 122 then c - 32 else c

/-- The signal that a number or name stands for; number 0 has the name `EXIT`. -/
def signalOf (text : Bytes) : Option Signal :=
  if !text.isEmpty && text.all isDigit then
    let n := decimal text
    if n ≤ lastSignal then some n else none
  else
    let name := text.map upper
    let name := if Bytes.beginsWith name (raw "SIG") then name.drop 3 else name
    if name == raw "EXIT" then some 0
    else (signalNames.findIdx? fun s => raw s == name).map (· + 1)

/-- What is said of a process that a signal ended. -/
def signalText (s : Signal) : String :=
  if s == 0 then "Unknown signal 0"
  else
    (signalTexts[s - 1]?).getD
      (if 34 ≤ s then "Real-time signal " ++ toString (s - 34) else "Unknown signal " ++ toString s)

/-- The name of a signal. -/
def signalName (s : Signal) : String :=
  if s == 0 then "EXIT" else (signalNames[s - 1]?).getD (toString s)

end Coprocess.Tools
