import Coprocess.Transfer
import Coprocess.Transport

/-!
# Line-buffered output

The standard output of the command line is written line by line: what follows the last line end
stays in a buffer as long as it fits, and is written at the next opportunity.  What is still in the
buffer when the process ends is tried once more, and nobody is told if that fails.

A standard stream that is closed takes everything.
-/

namespace Coprocess.FrontEnd

open Host

/-- Writes to a standard stream. -/
def writeStream (fd : Fd) (data : Bytes) : Program (Except SystemError Nat) := do
  match ← Transfer.writeFd fd data with
  -- A closed stream swallows what it is given.
  | .error (.os .EBADF) => return .ok data.length
  | result => return result

/-- Writes a text to a standard stream. -/
def print (fd : Fd) (text : String) : Program (Except SystemError Unit) :=
  Transfer.writeAll (writeStream fd) (Bytes.ofText text)

/-- What has not been written yet. -/
structure LineBuffer where
  held : Bytes := []
deriving DecidableEq, Repr

namespace LineBuffer

/-- How much the buffer holds. -/
def capacity : Nat := 1024

/-- Writes to the standard output. -/
def writeOut (data : Bytes) : Program (Except SystemError Nat) := writeStream standardOutput data

/-- Writes what the buffer holds; what was not taken stays there. -/
def flush (b : LineBuffer) : Program (Except SystemError Unit × LineBuffer) :=
  Program.iterate b.held fun held => do
    match held with
    | [] => return .inr (.ok (), {})
    | held =>
      match ← writeOut held with
      | .ok 0 => return .inr (.error .nothingWritten, ⟨held⟩)
      | .ok n => return .inl (held.drop n)
      | .error reason =>
        if reason == .os .EINTR then return .inl held else return .inr (.error reason, ⟨held⟩)

/-- Puts data into the buffer, which is written before if the data does not fit; data that would
fill the buffer is written directly. -/
def hold (b : LineBuffer) (data : Bytes) : Program (Except SystemError Unit × LineBuffer) := do
  if data.length + b.held.length < capacity then return (.ok (), ⟨b.held ++ data⟩)
  else
    let (flushed, b) ← if capacity < data.length + b.held.length then b.flush else pure (.ok (), b)
    match flushed with
    | .error reason => return (.error reason, b)
    | .ok () =>
      -- There is no use in buffering what would fill the buffer at once.
      if capacity ≤ data.length then return (← Transfer.writeAll writeOut data, b)
      else return (.ok (), ⟨b.held ++ data⟩)

/-- The complete lines at the beginning of some data, and the rest. -/
def cutLines (data : Bytes) : Bytes × Bytes :=
  let tail := (data.reverse.takeWhile (· != 10)).reverse
  (data.take (data.length - tail.length), tail)

/-- Writes the complete lines of some data and keeps the rest. -/
def put (b : LineBuffer) (data : Bytes) : Program (Except SystemError Unit × LineBuffer) := do
  let (lines, tail) := cutLines data
  let (written, b) ← if lines.isEmpty then
      -- Complete lines that an earlier attempt left behind are tried again.
      if b.held.getLast? == some 10 then b.flush else pure (.ok (), b)
    else if b.held.isEmpty then pure (← Transfer.writeAll writeOut lines, b)
    else do
      match ← b.hold lines with
      | (.ok (), b) => b.flush
      | failed => pure failed
  match written with
  | .error reason => return (.error reason, b)
  | .ok () => b.hold tail

/-- Tries to write what the buffer holds when the process is about to end. -/
def finish (b : LineBuffer) : Program Unit := do
  let _ ← b.flush

end LineBuffer

end Coprocess.FrontEnd
