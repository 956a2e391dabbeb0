import Coprocess.Host.Program

/-!
# Whole streams

Opening a file, reading a stream to its end and writing all of some data.  An interrupted request is
made again, and a stream that takes no bytes at all is an error, so that all of them come to an end
on every stream that goes on.
-/

namespace Coprocess.Transfer

open Host

/-- Opens a file. -/
def openFd (path : Bytes) (mode : OpenMode) : Program (Except Errno Fd) :=
  Program.iterate () fun () => do
    match ← Program.request (.openFile path mode) with
    | .ok fd => return .inr (.ok fd)
    | .error reason =>
      if reason == .EINTR then return .inl () else return .inr (.error reason)

/-- How much is read at once. -/
def chunk : Nat := 8192

/-- Reads through `read` to the end of the stream. -/
def readAll (read : Nat → Program (Except SystemError Bytes)) :
    Program (Except SystemError Bytes) :=
  Program.iterate ([] : List Bytes) fun chunks => do
    match ← read chunk with
    | .ok [] => return .inr (.ok chunks.reverse.flatten)
    | .ok data => return .inl (data :: chunks)
    | .error reason =>
      if reason == .os .EINTR then return .inl chunks else return .inr (.error reason)

/-- Writes all of some data through `write`. -/
def writeAll (write : Bytes → Program (Except SystemError Nat)) (data : Bytes) :
    Program (Except SystemError Unit) :=
  Program.iterate data fun data => do
    match data with
    | [] => return .inr (.ok ())
    | data =>
      match ← write data with
      | .ok 0 => return .inr (.error .nothingWritten)
      | .ok n => return .inl (data.drop n)
      | .error reason =>
        if reason == .os .EINTR then return .inl data else return .inr (.error reason)

/-- Reads from a descriptor. -/
def readFd (fd : Fd) (count : Nat) : Program (Except SystemError Bytes) := do
  return (← Program.request (.read fd count)).mapError .os

/-- Writes to a descriptor. -/
def writeFd (fd : Fd) (data : Bytes) : Program (Except SystemError Nat) := do
  return (← Program.request (.write fd data)).mapError .os

/-- Hands on what comes through `read` to `put`, chunk by chunk, until the stream ends or one of the
two fails. -/
def copy {σ : Type} (read : Nat → Program (Except SystemError Bytes))
    (put : σ → Bytes → Program (Except SystemError Unit × σ)) (s : σ) :
    Program (Except SystemError Unit × σ) :=
  Program.iterate s fun s => do
    match ← read chunk with
    | .ok [] => return .inr (.ok (), s)
    | .ok data =>
      match ← put s data with
      | (.ok (), s) => return .inl s
      | (.error reason, s) => return .inr (.error reason, s)
    | .error reason =>
      if reason == .os .EINTR then return .inl s else return .inr (.error reason, s)

end Coprocess.Transfer
