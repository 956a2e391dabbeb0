import Coprocess.FrontEnd.Output
import Coprocess.Handle

/-!
# Relaying

Connecting the standard streams of a process to a coprocess.  A thread forwards the standard input
through a descriptor of its own, so that the coprocess reads the end of the stream when the thread
is done; a terminal does not report that its input has ended, so the character for it is typed
instead.  Meanwhile the output of the coprocess is copied until it ends or cannot be written.  Then
the coprocess is closed, whatever became of the output.

A process that is refused the thread panics.  The coprocess is let go without being closed then, and
relaying has no result.
-/

namespace Coprocess.FrontEnd

open Host

/-- The character that ends the input on a terminal. -/
def endOfTransmission : UInt8 := 4

/-- Reads from the standard input; one that is closed is at its end. -/
def readInput (count : Nat) : Program (Except SystemError Bytes) := do
  match ← Transfer.readFd standardInput count with
  | .error (.os .EBADF) => return .ok []
  | result => return result

/-- Forwards the standard input to a descriptor, and closes that. -/
def forward (input : Fd) (onTerminal : Bool) : Program Unit := do
  let (copied, ()) ← Transfer.copy readInput
    (fun () data => return (← Transfer.writeAll (Transfer.writeFd input) data, ())) ()
  let ended ← match copied with
    | .ok () =>
      -- Over pipes, closing the descriptor below tells the coprocess.
      if onTerminal then Transfer.writeAll (Transfer.writeFd input) [endOfTransmission]
      else pure (.ok ())
    | .error reason => pure (.error reason)
  match ended with
  | .ok () => pure ()
  | .error reason => Program.tell (.inputForwardingEnded reason.message)
  let _ ← Program.request (.close input)

/-- How relaying fails. -/
inductive RelayError where
  /-- The input could not be duplicated. -/
  | input (reason : SystemError)
  /-- How the coprocess ended could not be found out. -/
  | reaping (reason : Failure)
  /-- The output could not be copied. -/
  | output (reason : SystemError)
deriving DecidableEq, Repr

/-- What comes of relaying, once the output has been copied and the coprocess been closed.  A reader
that went away does no harm. -/
def outcome (copied : Except SystemError Unit) (closed : Except Failure Status) :
    Except RelayError Status :=
  match closed, copied with
  | .error reason, _ => .error (.reaping reason)
  | .ok status, .ok () => .ok status
  | .ok status, .error reason =>
    if reason == .os .EPIPE then .ok status else .error (.output reason)

/-- Says why the process panics, as far as that can be written. -/
def panicNote (reason : String) : Program Unit := do
  let _ ← print standardError ("thread 'main' panicked:\n" ++ reason ++ "\n")

/-- Relays the standard streams to a coprocess and waits for its end; `none` if the process panics
instead. -/
def relay (h : Handle) : Program (Option (Except RelayError Status) × LineBuffer) := do
  match ← h.cloneInput with
  | .error reason =>
    h.drop
    return (some (.error (.input reason)), {})
  | .ok input =>
    -- From here on only the thread holds the input, and decides when it ends.
    let (h, _) ← h.closeInput
    .spawn (forward input h.transport.isTerminal) fun
      | .error reason => do
        -- What the thread was to hold goes away with it, and the coprocess is not waited for.
        let _ ← Program.request (.close input)
        panicNote ("failed to spawn thread: " ++ (SystemError.os reason).message)
        h.drop
        return (none, {})
      | .ok () => do
        let (copied, buffer) ← Transfer.copy h.read LineBuffer.put {}
        let (h, closed) ← h.close
        if let .ok status := closed then Program.tell (.commandLineDone status)
        h.drop
        return (some (outcome copied closed), buffer)

end Coprocess.FrontEnd
