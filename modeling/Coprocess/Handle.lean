import Coprocess.Transport

/-!
# Handles

A handle is what the parent keeps of a coprocess: the child's number, the parent's side of the
channel, and how the child ended, once that is known.  Every operation takes the handle and returns
the handle as it is afterwards.

Closing comes first and waiting second: `Handle.close` closes every descriptor before it waits, and
only while the status is not known yet.  A wait that fails leaves the descriptors closed and may be
tried again.  Over a terminal the slave is released before the master is closed.
-/

namespace Coprocess

open Host

/-- The parent's hold on a coprocess. -/
structure Handle where
  pid : Pid
  transport : Transport
  status : Option Status := none
deriving DecidableEq, Repr, Inhabited

namespace Handle

/-! ### Reading and writing -/

/-- Reads what the child has written, at most `count` bytes; no bytes at all mean the end of the
stream.  A master reports an input error once the slave side is gone, and that is the end as
well. -/
def read (h : Handle) (count : Nat) : Program (Except SystemError Bytes) :=
  match h.transport.output.fd with
  | none => return .error .closed
  | some fd => do
    match ← Program.request (.read fd count) with
    | .ok data => return .ok data
    | .error reason =>
      if h.transport.isTerminal && reason == .EIO then return .ok []
      else return .error (.os reason)

/-- Writes to the child, and says how many bytes were taken. -/
def write (h : Handle) (data : Bytes) : Program (Except SystemError Nat) :=
  match h.transport.input.fd with
  | none => return .error .closed
  | some fd => do return (← Program.request (.write fd data)).mapError .os

/-- Nothing is held back on the way to the child, so there is nothing to flush. -/
def flush (_ : Handle) : Program (Except SystemError Unit) := return .ok ()

/-- The least number a cloned descriptor may get, which keeps the standard streams free. -/
def firstCloneFd : Fd := 3

/-- A second descriptor for the child's input, which the caller has to close. -/
def cloneInput (h : Handle) : Program (Except SystemError Fd) :=
  match h.transport.input.fd with
  | none => return .error .closed
  | some fd => do
    return (← Program.request (.duplicate fd firstCloneFd true)).mapError .os

/-! A closed slot is answered without asking the system. -/

theorem read_of_isClosed {h : Handle} (closed : h.transport.output.isClosed) (count : Nat) :
    h.read count = pure (.error .closed) := by
  rw [Slot.isClosed_iff] at closed
  rw [read, closed]
  rfl

theorem write_of_isClosed {h : Handle} (closed : h.transport.input.isClosed) (data : Bytes) :
    h.write data = pure (.error .closed) := by
  rw [Slot.isClosed_iff] at closed
  rw [write, closed]
  rfl

theorem cloneInput_of_isClosed {h : Handle} (closed : h.transport.input.isClosed) :
    h.cloneInput = pure (.error .closed) := by
  rw [Slot.isClosed_iff] at closed
  rw [cloneInput, closed]
  rfl

/-! ### Closing -/

/-- Closes the pipe to the child, so that it reads the end of the stream, and says whether a
descriptor was closed.  A terminal carries both directions and is left alone. -/
def closeInput (h : Handle) : Program (Handle × Bool) :=
  match h.transport with
  | .pipes input output => do
    let (input, closed) ← input.close
    return ({ h with transport := .pipes input output }, closed)
  | .terminal _ _ => return (h, false)

/-- Releases a slave; that it cannot be released is only told of. -/
def release (during : Origin) (slaveName : String) : Program Unit := do
  match ← Program.request (.releaseTerminal slaveName) with
  | .ok _ => pure ()
  | .error reason => Program.tell (.releaseFailed during slaveName reason.message)

/-- Closes every descriptor that is still open, releasing the slave of an open master first. -/
def closeTransport : Transport → Program Transport
  | .pipes input output => do
    let (input, _) ← input.close
    let (output, _) ← output.close
    return .pipes input output
  | .terminal master slaveName => do
    if master.isClosed then return .terminal master slaveName
    else
      release .lifecycle slaveName
      let (master, _) ← master.close
      return .terminal master slaveName

/-- Waits for a child to end.  Interruptions, stops and continuations are no terminations and are
passed over, however many there are. -/
def awaitStatus (pid : Pid) : Program (Except Failure Status) :=
  Program.iterate () fun _ => do
    match ← Program.request (.wait (some pid) true) with
    | .error reason =>
      if reason == .EINTR then return .inl ()
      else return .inr (.error (.system "waitpid" reason))
    | .ok (_, report) =>
      match report.decode with
      | .ok (.ended status) => return .inr (.ok status)
      -- The child was stopped or goes on; its end is still to come.
      | .ok .other => return .inl ()
      | .error reason => return .inr (.error (.system "waitpid" reason))

/-- Closes every descriptor, waits for the child unless its end is known, and says how it ended. -/
def close (h : Handle) : Program (Handle × Except Failure Status) := do
  let transport ← closeTransport h.transport
  let h := { h with transport }
  Program.tell (.descriptorsClosed h.pid)
  match h.status with
  | some status => return (h, .ok status)
  | none =>
    match ← awaitStatus h.pid with
    | .error reason => return (h, .error reason)
    | .ok status => do
      Program.tell (.waited h.pid status)
      return ({ h with status := some status }, .ok status)

/-- Gives the handle up: what is still open is closed, and nobody waits for the child.  Slaves are
not released on this way. -/
def drop (h : Handle) : Program Unit := do
  -- Nobody will learn how the child ended.
  if h.status.isNone then Program.tell (.droppedUnreaped h.pid)
  match h.transport with
  | .pipes input output => do
    let _ ← input.close
    let _ ← output.close
  | .terminal master _ => do
    let _ ← master.close

/-! ### Description -/

/-- How a slot is described. -/
def describeSlot (s : Slot) : String :=
  match s.fd with
  | none => "FdSlot(None)"
  | some fd => "FdSlot(Some(" ++ toString fd ++ "))"

/-- How the transport is described. -/
def describeTransport : Transport → String
  | .pipes input output =>
    "Pipe(PipeEnds \x7b to: " ++ describeSlot input ++ ", from: " ++ describeSlot output ++ " \x7d)"
  | .terminal master slaveName =>
    "Pty(PtyEnds \x7b master: " ++ describeSlot master ++ ", slave_name: " ++
      Text.quoted slaveName ++ ", .. \x7d)"

/-- How the handle is described; the number of the child is given as text. -/
def describe (h : Handle) (pid : String) : String :=
  let status := match h.status with
    | none => "None"
    | some s => "Some(" ++ s.describe ++ ")"
  "Coprocess \x7b pid: Pid(" ++ pid ++ "), transport: " ++ describeTransport h.transport ++
    ", status: " ++ status ++ " \x7d"

end Handle

end Coprocess
