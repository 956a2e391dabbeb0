import Coprocess.Host.Program

/-!
# Transports

The channel between a parent and its coprocess, as far as the parent holds it.  Over pipes the
parent has two descriptors, one for each direction; over a terminal it has the master side, which
carries both.  A `Slot` is a descriptor that may have been closed, and closing it again does
nothing.
-/

namespace Coprocess

open Host

/-- A descriptor of the parent, or nothing once it is closed. -/
structure Slot where
  fd : Option Fd
deriving DecidableEq, Repr, Inhabited

namespace Slot

/-- A slot that holds an open descriptor. -/
def holding (fd : Fd) : Slot := ⟨some fd⟩

/-- A slot whose descriptor is closed. -/
def empty : Slot := ⟨none⟩

/-- Whether the descriptor is closed. -/
def isClosed (s : Slot) : Bool := s.fd.isNone

/-- Closes the descriptor if it is still open, and says whether it was. -/
def close (s : Slot) : Program (Slot × Bool) :=
  match s.fd with
  | some fd => do
    let _ ← Program.request (.close fd)
    return (empty, true)
  | none => return (s, false)

theorem isClosed_iff {s : Slot} : s.isClosed = true ↔ s = empty := by
  cases s
  simp [isClosed, empty]

end Slot

/-- The channel between a parent and its coprocess. -/
inductive Transport where
  /-- The write end of the pipe to the child's input, and the read end of the pipe from its
  output. -/
  | pipes (input output : Slot)
  /-- The master side of a terminal and the name of the slave's device. -/
  | terminal (master : Slot) (slaveName : String)
deriving DecidableEq, Repr, Inhabited

namespace Transport

/-- Where the parent writes. -/
def input : Transport → Slot
  | pipes input _ => input
  | terminal master _ => master

/-- Where the parent reads. -/
def output : Transport → Slot
  | pipes _ output => output
  | terminal master _ => master

/-- Whether every descriptor is closed. -/
def isClosed : Transport → Bool
  | pipes input output => input.isClosed && output.isClosed
  | terminal master _ => master.isClosed

/-- Whether the channel is a terminal. -/
def isTerminal : Transport → Bool
  | pipes _ _ => false
  | terminal _ _ => true

end Transport

/-! ### Wiring -/

/-- The standard streams. -/
def standardInput : Fd := 0

/-- The stream for results. -/
def standardOutput : Fd := 1

/-- The stream for diagnostics. -/
def standardError : Fd := 2

/-- Makes a descriptor available under the number `target` to the next image, and says whether that
worked.  Duplicating a descriptor onto itself would leave its close-on-exec mark in place, so there
the mark is cleared instead. -/
def wireOnto (fd target : Fd) : Program Bool :=
  if fd == target then do
    return (← Program.request (.setCloexec fd false)).isOk
  else do
    return (← Program.request (.duplicateOnto fd target)).isOk

/-- Carries out the wirings in order, up to the first that fails. -/
def wireAll : List (Fd × Fd) → Program Bool
  | [] => return true
  | (fd, target) :: rest => do
    if ← wireOnto fd target then wireAll rest else return false

end Coprocess
