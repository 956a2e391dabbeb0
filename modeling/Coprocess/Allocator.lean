import Coprocess.Transfer

/-!
# Terminal allocators

The engine does not make terminals itself.  It asks whichever allocator is in charge for a pair of
master and slave, and hands the slave back when it is done; the two requests are `acquireTerminal`
and `releaseTerminal`.  An allocator says how they are carried out, and `Program.allocatedBy` puts
one in charge of a program.  What holds of a program whatever the replies to the two requests are,
holds under every allocator.

The native allocator makes pseudo-terminals of the host.  Its slaves go away with their last
descriptor, so that releasing one only tells of it.
-/

namespace Coprocess

open Host

/-- A way to carry out the two requests, with a state of its own. -/
structure Allocator (σ : Type) where
  acquire : σ → Option Modes → Option WindowSize → Program (Except Failure TerminalPair × σ)
  release : σ → String → Program (Except Failure Unit × σ)

namespace Host.Program

/-- The program with the allocator in charge of its terminals. -/
def allocatedBy {σ : Type} (a : Allocator σ) : {α : Type} → σ → Program α → Program (α × σ)
  | _, s, done value => done (value, s)
  -- The two requests are carried out here and never reach the machine.
  | _, s, call (.acquireTerminal modes size) next =>
    (a.acquire s modes size).bind fun r => (next r.1).allocatedBy a r.2
  | _, s, call (.releaseTerminal name) next =>
    (a.release s name).bind fun r => (next r.1).allocatedBy a r.2
  | _, s, call c next => call c fun r => (next r).allocatedBy a s
  | _, s, fork child next =>
    -- A child works on a copy of the state, which nobody sees again.
    fork ((child.allocatedBy a s).bind fun _ => done ()) fun r => (next r).allocatedBy a s
  | _, s, spawn thread next =>
    spawn ((thread.allocatedBy a s).bind fun _ => done ()) fun r => (next r).allocatedBy a s
  | _, s, loop state body next =>
    loop (state, s)
      (fun st => ((body st.1).allocatedBy a st.2).bind fun r =>
        done (match r.1 with
          | .inl state => .inl (state, r.2)
          | .inr b => .inr (b, r.2)))
      fun r => (next r.1).allocatedBy a r.2

end Host.Program

namespace Allocator

/-! ### The native allocator -/

/-- Goes on with the result of a request, or fails in the name of `operation`. -/
def orFail {α β : Type} (operation : String) (r : Except Errno α)
    (next : α → Program (Except Failure β)) : Program (Except Failure β) :=
  match r with
  | .ok a => next a
  | .error reason => return .error (.system operation reason)

/-- Sets a slave up as asked: first its modes, then its window. -/
def setUp (slave : Fd) (modes : Option Modes) (size : Option WindowSize) :
    Program (Except Failure Unit) := do
  let moded ← match modes with
    | some m => Program.request (.setModes slave m)
    | none => pure (.ok ())
  orFail "tcsetattr" moded fun _ => do
    let sized ← match size with
      | some w => Program.request (.setWindowSize slave w)
      | none => pure (.ok ())
    orFail "ioctl(TIOCSWINSZ)" sized fun _ => return .ok ()

/-- Opens the slave that belongs to a master and sets it up; the slave does not stay open if that
fails. -/
def openSlave (master : Fd) (modes : Option Modes) (size : Option WindowSize) :
    Program (Except Failure TerminalPair) := do
  orFail "grantpt" (← Program.request (.grantSlave master)) fun _ => do
    orFail "unlockpt" (← Program.request (.unlockSlave master)) fun _ => do
      orFail "ptsname" (← Program.request (.slaveName master)) fun slaveName => do
        let mode : OpenMode := { read := true, write := true, noControl := true, cloexec := true }
        match ← Transfer.openFd (Bytes.ofText slaveName) mode with
        | .error reason => return .error (.ofSystemError "open slave" (.os reason))
        | .ok slave =>
          match ← setUp slave modes size with
          | .error reason => do
            let _ ← Program.request (.close slave)
            return .error reason
          | .ok _ => return .ok ⟨master, slave, slaveName⟩

/-- Makes a pseudo-terminal of the host, both sides of it open, and sets the slave up as asked.
Nothing stays open if that fails. -/
def acquireNative (modes : Option Modes) (size : Option WindowSize) :
    Program (Except Failure TerminalPair) := do
  orFail "posix_openpt" (← Program.request .openMaster) fun master => do
    match ← openSlave master modes size with
    | .error reason => do
      let _ ← Program.request (.close master)
      return .error reason
    | .ok pair => do
      Program.tell (.terminalAllocated pair.slaveName)
      return .ok pair

/-- Tells that a slave went back to the host, which needs nothing to be done. -/
def releaseNative (slaveName : String) : Program (Except Failure Unit) := do
  Program.tell (.terminalReleased slaveName)
  return .ok ()

/-- The allocator of the host's own pseudo-terminals. -/
def native : Allocator Unit where
  acquire _ modes size := do return (← acquireNative modes size, ())
  release _ slaveName := do return (← releaseNative slaveName, ())

end Allocator

end Coprocess
