import Coprocess.Event
import Coprocess.Host.Table

/-!
# Requests to the host

What a program can ask of the machine it runs on, and what it can be told.  A request is a value of
`Call`, and `Call.Reply` is the type of its answers; a reply that no program ever sees, that of
`Call.exit`, is empty.  A request that the machine refuses is answered by the reason.

The wait report keeps what the machine knows about a child; `WaitReport.decode` reads it the way the
engine does, which knows the signals from 1 to 31 by name and refuses all others.
-/

namespace Coprocess.Host

/-- The number of a process. -/
abbrev Pid := Nat

/-- The number of a signal. -/
abbrev Signal := Nat

/-- Microseconds since the machine was started. -/
abbrev Instant := Nat

/-! ### What calls carry -/

/-- How a file is opened. -/
structure OpenMode where
  read : Bool := false
  write : Bool := false
  create : Bool := false
  exclusive : Bool := false
  truncate : Bool := false
  append : Bool := false
  /-- Opening a terminal does not make it the controlling one. -/
  noControl : Bool := false
  cloexec : Bool := false
  permissions : Nat := 0o666
deriving DecidableEq, Repr

/-- How a terminal treats what passes through it. -/
structure Modes where
  /-- Input is shown as it is typed. -/
  echo : Bool := true
  /-- Input is handed over line by line. -/
  canonical : Bool := true
  /-- Certain characters send signals. -/
  signals : Bool := true
  /-- Output is processed at all. -/
  postprocess : Bool := true
  /-- A line feed goes out as a carriage return and a line feed. -/
  newlineOut : Bool := true
  /-- A carriage return comes in as a line feed. -/
  returnIn : Bool := true
deriving DecidableEq, Repr

/-- The size of a terminal's window. -/
structure WindowSize where
  rows : Nat := 0
  columns : Nat := 0
  xPixels : Nat := 0
  yPixels : Nat := 0
deriving DecidableEq, Repr

/-- What a process does about a signal. -/
inductive Disposition where
  | default
  | ignored
  | caught
deriving DecidableEq, Repr

/-- The kinds of files. -/
inductive FileKind where
  | regular
  | directory
  | link
  | device
  | channel
deriving DecidableEq, Repr

/-- What is known about a file. -/
structure FileInfo where
  kind : FileKind
  permissions : Nat
  size : Nat
  number : Nat
deriving DecidableEq, Repr

/-- What a parent is told about a child. -/
inductive WaitReport where
  | exited (code : Nat)
  | killed (signal : Signal) (coreDumped : Bool)
  | stopped (signal : Signal)
  | continued
  | stillAlive
deriving DecidableEq, Repr

/-- A wait report as the engine reads it: a termination, or a change that is none. -/
inductive WaitOutcome where
  | ended (status : Status)
  | other
deriving DecidableEq, Repr

/-- The greatest signal number that has a name. -/
def lastNamedSignal : Signal := 31

/-- Reads a report.  A signal without a name makes reading fail, although the child was reaped. -/
def WaitReport.decode : WaitReport → Except Errno WaitOutcome
  | exited code => .ok (.ended (.exited code))
  | killed signal coreDumped =>
    if signal ≤ lastNamedSignal then .ok (.ended (.signaled signal coreDumped)) else .error .EINVAL
  | stopped signal => if signal ≤ lastNamedSignal then .ok .other else .error .EINVAL
  | continued => .ok .other
  | stillAlive => .ok .other

/-- A freshly allocated pseudo-terminal, both sides open. -/
structure TerminalPair where
  master : Fd
  slave : Fd
  /-- The path of the slave's device. -/
  slaveName : String
deriving DecidableEq, Repr

/-! ### Calls -/

/-- A request to the machine. -/
inductive Call where
  /-- Opens a file under the lowest free number. -/
  | openFile (path : Bytes) (mode : OpenMode)
  | close (fd : Fd)
  /-- Waits until there is something to read, then takes at most `count` bytes. -/
  | read (fd : Fd) (count : Nat)
  | write (fd : Fd) (data : Bytes)
  /-- Binds the lowest free number from `least` on to the same open file. -/
  | duplicate (fd least : Fd) (cloexec : Bool)
  /-- Binds exactly the number `target` to the same open file. -/
  | duplicateOnto (fd target : Fd)
  | setCloexec (fd : Fd) (on : Bool)
  | getCloexec (fd : Fd)
  /-- Makes a pipe: its read end, then its write end. -/
  | pipe (cloexec : Bool)
  /-- Waits until a descriptor is readable, at most until the deadline. -/
  | awaitReadable (fd : Fd) (deadline : Instant)
  /-- Makes a pseudo-terminal and opens its master side. -/
  | openMaster
  | grantSlave (master : Fd)
  | unlockSlave (master : Fd)
  | slaveName (master : Fd)
  | getModes (fd : Fd)
  | setModes (fd : Fd) (modes : Modes)
  | getWindowSize (fd : Fd)
  | setWindowSize (fd : Fd) (size : WindowSize)
  /-- Asks the terminal allocator in charge for a pair with the given modes and window size. -/
  | acquireTerminal (modes : Option Modes) (size : Option WindowSize)
  /-- Hands a slave device back to the terminal allocator in charge. -/
  | releaseTerminal (slaveName : String)
  /-- The path of the terminal a descriptor is open on. -/
  | terminalName (fd : Fd)
  /-- The greatest length of a path under a directory, if there is a limit. -/
  | pathLimit (directory : Bytes)
  | fileInfo (path : Bytes) (follow : Bool)
  | descriptorInfo (fd : Fd)
  /-- Whether the caller may use the file in all of the given ways (4 read, 2 write, 1 execute). -/
  | mayAccess (path : Bytes) (ways : Nat)
  | listDirectory (path : Bytes)
  | readLink (path : Bytes)
  | makeDirectory (path : Bytes) (permissions : Nat)
  | makeLink (target path : Bytes)
  | removeFile (path : Bytes)
  | removeDirectory (path : Bytes)
  | rename (source target : Bytes)
  | setPermissions (path : Bytes) (permissions : Nat)
  | changeDirectory (path : Bytes)
  | workingDirectory
  /-- Takes on a new image; there is a reply only if that fails. -/
  | execute (path : Bytes) (argv envv : List Bytes)
  | exit (code : Nat)
  /-- Waits for a child, any if none is named, and reaps it; without `block` a running child is
  reported as such. -/
  | wait (child : Option Pid) (block : Bool)
  /-- Waits until a child has ended, without reaping it. -/
  | awaitEnd (child : Pid)
  | kill (target : Pid) (signal : Signal)
  | processId
  | parentId
  /-- Starts a session of its own for the caller. -/
  | newSession
  /-- Makes a terminal the controlling terminal of the caller's session. -/
  | controlTerminal (fd : Fd)
  | setDisposition (signal : Signal) (disposition : Disposition)
  /-- The caught signals that have arrived, which are thereby taken. -/
  | takeSignals
  | now
  | sleepUntil (deadline : Instant)
  /-- Sends the caller an alarm signal in regular intervals; zero stops it. -/
  | setAlarm (interval : Nat)
  /-- Limits how many more descriptors the caller can open; `none` lifts the limit. -/
  | limitDescriptors (more : Option Nat)
  /-- Whether the caller is privileged. -/
  | isPrivileged
  /-- The home directory that the list of users names for the caller, if it has an entry. -/
  | homeDirectory
  /-- Gives up the caller's privileges. -/
  | dropPrivileges
  /-- Tells of an event. -/
  | log (event : Event)

/-- The answers to a request. -/
@[reducible]
def Call.Reply : Call → Type
  | openFile .. => Except Errno Fd
  | close .. => Except Errno Unit
  | read .. => Except Errno Bytes
  | write .. => Except Errno Nat
  | duplicate .. => Except Errno Fd
  | duplicateOnto .. => Except Errno Fd
  | setCloexec .. => Except Errno Unit
  | getCloexec .. => Except Errno Bool
  | pipe .. => Except Errno (Fd × Fd)
  | awaitReadable .. => Bool
  | openMaster => Except Errno Fd
  | grantSlave .. => Except Errno Unit
  | unlockSlave .. => Except Errno Unit
  | slaveName .. => Except Errno String
  | getModes .. => Except Errno Modes
  | setModes .. => Except Errno Unit
  | getWindowSize .. => Except Errno WindowSize
  | setWindowSize .. => Except Errno Unit
  | acquireTerminal .. => Except Failure TerminalPair
  | releaseTerminal .. => Except Failure Unit
  | terminalName .. => Except Errno Bytes
  | pathLimit .. => Except Errno (Option Int)
  | fileInfo .. => Except Errno FileInfo
  | descriptorInfo .. => Except Errno FileInfo
  | mayAccess .. => Except Errno Unit
  | listDirectory .. => Except Errno (List Bytes)
  | readLink .. => Except Errno Bytes
  | makeDirectory .. => Except Errno Unit
  | makeLink .. => Except Errno Unit
  | removeFile .. => Except Errno Unit
  | removeDirectory .. => Except Errno Unit
  | rename .. => Except Errno Unit
  | setPermissions .. => Except Errno Unit
  | changeDirectory .. => Except Errno Unit
  | workingDirectory => Bytes
  | execute .. => Errno
  | exit .. => Empty
  | wait .. => Except Errno (Pid × WaitReport)
  | awaitEnd .. => Except Errno Unit
  | kill .. => Except Errno Unit
  | processId => Pid
  | parentId => Pid
  | newSession => Except Errno Unit
  | controlTerminal .. => Except Errno Unit
  | setDisposition .. => Except Errno Disposition
  | takeSignals => List Signal
  | now => Instant
  | sleepUntil .. => Except Errno Unit
  | setAlarm .. => Unit
  | limitDescriptors .. => Unit
  | isPrivileged => Bool
  | homeDirectory => Option Bytes
  | dropPrivileges => Except Errno Unit
  | log .. => Unit

end Coprocess.Host
