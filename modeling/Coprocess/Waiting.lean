import Coprocess.Host.Program

/-!
# Waiting with a limit

Reading from a stream and watching a condition, both for a limited time.  Times are microseconds.

A limited read gives up when its deadline has passed, even if there is something to read at that
moment; what was read until then is lost.  A watched condition is looked at first and the clock
second, so that it is looked at once at least.
-/

namespace Coprocess

open Host

/-- Microseconds. -/
abbrev Duration := Nat

namespace Duration

/-- A duration of so many milliseconds. -/
def ofMillis (n : Nat) : Duration := n * 1000

/-- The whole milliseconds of a duration. -/
def toMillis (d : Duration) : Nat := d / 1000

end Duration

/-! ### Reading -/

/-- The longest time to wait for a descriptor, in milliseconds. -/
def longestPoll : Nat := 2147483647

/-- Waits until there is something to read or the stream has ended, and says whether that happened
in time.  The time to wait is cut to whole milliseconds and to the longest that the system knows. -/
def waitReadable (fd : Fd) (timeout : Duration) : Program Bool := do
  let now ← Program.request .now
  let millis := min timeout.toMillis longestPoll
  Program.request (.awaitReadable fd (now + Duration.ofMillis millis))

/-- How much is read at once. -/
def readChunk : Nat := 256

/-- Reads `wanted` bytes through `read`, fewer if the stream ends before, within a time limit; `fd`
is the descriptor that `read` reads from. -/
def readWithin (fd : Fd) (read : Nat → Program (Except SystemError Bytes)) (wanted : Nat)
    (timeout : Duration) : Program (Except SystemError Bytes) := do
  let start ← Program.request .now
  let deadline := start + timeout
  Program.iterate (0, ([] : List Bytes)) fun (got, chunks) => do
    if wanted ≤ got then return .inr (.ok chunks.reverse.flatten)
    else
      let left := deadline - (← Program.request .now)
      let timely ← if left == 0 then pure false else waitReadable fd left
      if !timely then return .inr (.error (.timedOut got wanted))
      else
        match ← read (min (wanted - got) readChunk) with
        | .error reason => return .inr (.error reason)
        | .ok [] => return .inr (.ok chunks.reverse.flatten)
        | .ok data => return .inl (got + data.length, data :: chunks)

/-! ### Watching -/

/-- Looks at a condition again and again, in intervals, until it holds or the time is up, and says
whether it held.  The condition may carry a state along. -/
def pollUntil {σ : Type} (timeout interval : Duration) (s : σ) (check : σ → Program (Bool × σ)) :
    Program (Bool × σ) := do
  let start ← Program.request .now
  Program.iterate s fun s => do
    let (held, s) ← check s
    if held then return .inr (true, s)
    else
      let now ← Program.request .now
      if timeout ≤ now - start then return .inr (false, s)
      else
        let _ ← Program.request (.sleepUntil (now + interval))
        return .inl s

/-- A condition that holds when it is looked at for the `n`-th time, counting how often it was. -/
def nthTime (n : Option Nat) (looked : Nat) : Program (Bool × Nat) :=
  return (n == some (looked + 1), looked + 1)

end Coprocess
