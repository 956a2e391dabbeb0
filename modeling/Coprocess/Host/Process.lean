import Coprocess.Host.Files
import Coprocess.Host.Terminal

/-!
# Processes

What a machine keeps of a process.  A process that has ended stays until its parent has asked how;
what is left of it then is its report.

`SignalEffect` is what a signal does by default.  Two signals can be neither caught nor ignored, and
the one that continues a stopped process does so whatever the process does about it.
-/

namespace Coprocess.Host

/-- What an open file leads to. -/
inductive Description where
  | pipeReader (pipe : Nat)
  | pipeWriter (pipe : Nat)
  | master (terminal : Nat)
  | slave (terminal : Nat)
  | null (reads writes : Bool)
  | full
  | zero
  /-- A file of the tree; the position is shared by all that the description was handed on to. -/
  | file (opened : Nat)
deriving DecidableEq, Repr, Inhabited

/-! ### Signals -/

/-- What a signal does to a process that does nothing about it. -/
inductive SignalEffect where
  | ends
  | stops
  | continues
  | nothing
deriving DecidableEq, Repr

/-- The signal that nobody can catch or ignore and that ends a process. -/
def killSignal : Signal := 9
/-- The signal that nobody can catch or ignore and that stops a process. -/
def stopSignal : Signal := 19
/-- The signal that lets a stopped process go on. -/
def continueSignal : Signal := 18
/-- The signal for the loss of a terminal. -/
def hangupSignal : Signal := 1
/-- The signal that a set time has come. -/
def alarmSignal : Signal := 14

/-- The greatest number of a signal. -/
def lastSignal : Signal := 64

/-- What a signal does by default. -/
def effectOf (s : Signal) : SignalEffect :=
  if s == continueSignal then .continues
  else if s == stopSignal || s == 20 || s == 21 || s == 22 then .stops
  else if s == 17 || s == 23 || s == 28 then .nothing
  else .ends

/-! ### Processes -/

/-- A process. -/
structure Process where
  parent : Pid
  session : Pid
  group : Pid
  table : Table Description := []
  /-- Where relative paths begin. -/
  place : Place := []
  argv : List Bytes := []
  envv : List Bytes := []
  /-- What is done about signals; signals that are not listed do what they do by default. -/
  dispositions : List (Signal × Disposition) := []
  /-- The caught signals that have arrived. -/
  arrived : List Signal := []
  /-- Whether a caught signal arrived during a request that waits. -/
  interrupted : Bool := false
  stopped : Bool := false
  /-- How the process ended. -/
  ended : Option WaitReport := none
  /-- The interval of the alarm, and when it next goes off. -/
  alarm : Option (Nat × Instant) := none
  /-- The descriptors that can be bound lie below this number. -/
  descriptorLimit : Option Fd := none
  privileged : Bool := true
deriving Inhabited

namespace Process

/-- What the process does about a signal. -/
def dispositionOf (p : Process) (s : Signal) : Disposition :=
  if s == killSignal || s == stopSignal then .default
  else ((p.dispositions.find? (·.1 == s)).map (·.2)).getD .default

/-- The process with another disposition for a signal. -/
def setDisposition (p : Process) (s : Signal) (d : Disposition) : Process :=
  { p with dispositions := (s, d) :: p.dispositions.filter (·.1 != s) }

/-- Whether the process is still there. -/
def isAlive (p : Process) : Bool := p.ended.isNone

/-- The process with a new image: descriptors marked so are closed, and caught signals are no
longer. -/
def become (p : Process) (argv envv : List Bytes) : Process :=
  { p with
    argv, envv, table := p.table.kept, arrived := [],
    dispositions := p.dispositions.filter (·.2 != .caught) }

/-- The number under which the next descriptor is bound, if there is one left. -/
def nextFd (p : Process) (least : Fd) : Option Fd :=
  let fd := p.table.lowestFree least
  match p.descriptorLimit with
  | some limit => if fd < limit then some fd else none
  | none => some fd

end Process

end Coprocess.Host
