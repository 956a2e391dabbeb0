import Coprocess.Allocator
import Coprocess.FileAccess
import Coprocess.Logging
import Coprocess.Waiting

/-!
# Probes

Small programs that try one part of the library and report what they saw: limited reads from a pipe,
a terminal by itself, and repeated starts of logging.
-/

namespace Coprocess.Probe

open Host

/-! ### Limited reads -/

/-- Reads from a descriptor as often as asked, each time so many bytes. -/
def readEach (fd : Fd) (timeout : Duration) (results : List (Except SystemError Bytes)) :
    List Nat → Program (List (Except SystemError Bytes))
  | [] => return results.reverse
  | wanted :: rest => do
    let result ← readWithin fd (Transfer.readFd fd) wanted timeout
    readEach fd timeout (result :: results) rest

/-- Fills a pipe, hangs its writing side up if asked, and says whether it is readable and what
limited reads of it yield; `none` if there is no pipe to be had. -/
def limitedReads (data : Bytes) (hangUp : Bool) (timeout : Duration) (counts : List Nat) :
    Program (Option (Bool × List (Except SystemError Bytes))) := do
  match ← Program.request (.pipe true) with
  | .error _ => return none
  | .ok (readEnd, writeEnd) =>
    let _ ← Transfer.writeAll (Transfer.writeFd writeEnd) data
    if hangUp then
      let _ ← Program.request (.close writeEnd)
    let readable ← waitReadable readEnd timeout
    return some (readable, ← readEach readEnd timeout [] counts)

/-! ### Terminals -/

/-- What is seen of a terminal. -/
structure TerminalReport where
  slaveName : String
  /-- Whether there is a device of that name. -/
  present : Bool
  /-- Whether the descriptors of the two sides end with the image. -/
  cloexec : List Bool
  size : WindowSize
  modes : Modes
  /-- What came out of the master. -/
  output : Bytes

/-- Reads exactly so many bytes, fewer only if the stream ends or fails. -/
def readExactly (fd : Fd) (count : Nat) : Program Bytes :=
  Program.iterate ([] : Bytes) fun got => do
    if count ≤ got.length then return .inr got
    else
      match ← Transfer.readFd fd (count - got.length) with
      | .ok [] => return .inr got
      | .ok data => return .inl (got ++ data)
      | .error _ => return .inr got

/-- Whether a descriptor ends with the image. -/
def isCloexec (fd : Fd) : Program Bool := do
  return ((← Program.request (.getCloexec fd)).toOption).getD false

/-- Makes a terminal, writes to its slave side, and reads so many bytes from its master side. -/
def terminal (modes : Option Modes) (size : Option WindowSize) (data : Bytes) (count : Nat) :
    Program (Except Failure TerminalReport) := do
  match ← Allocator.acquireNative modes size with
  | .error reason => return .error reason
  | .ok pair =>
    let present := (← Program.request (.fileInfo (Bytes.ofText pair.slaveName) true)).isOk
    let cloexec := [← isCloexec pair.master, ← isCloexec pair.slave]
    let size := ((← Program.request (.getWindowSize pair.slave)).toOption).getD {}
    let modes := ((← Program.request (.getModes pair.slave)).toOption).getD {}
    let _ ← Transfer.writeAll (Transfer.writeFd pair.slave) data
    let output ← readExactly pair.master count
    return .ok { slaveName := pair.slaveName, present, cloexec, size, modes, output }

/-! ### Starts of logging -/

/-- Starts logging so many times and then shuts it down, where everything told is heard anyway. -/
def startEach (path : Option Bytes) (level : LogLevel) (log : Logging)
    (results : List (Except SystemError Unit)) : Nat → Program (List (Except SystemError Unit))
  | 0 => do
    let _ ← log.perform .shutDown
    return results.reverse
  | times + 1 => do
    let (log, result) ← log.perform (.start path level [])
    startEach path level log (result :: results) times

/-- Starts logging so many times, and says what came of it and whether the path leads to a regular
file in the end. -/
def logging (path : Option Bytes) (level : LogLevel) (times : Nat) :
    Program (List (Except SystemError Unit) × Option Bool) := do
  let results ← startEach path level {} [] times
  match path with
  | none => return (results, none)
  | some path => return (results, some (← FileAccess.isRegular path))

end Coprocess.Probe
