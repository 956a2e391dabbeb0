import Coprocess.Allocator
import Coprocess.Host.Process
import Coprocess.Launch
import Coprocess.Transfer
import Coprocess.Waiting

/-!
# Sessions

A session is a list of steps on coprocesses that are kept under numbers, and the answers to them.
The steps are what a caller can do with the engine, and what it can do behind the engine's back:
send signals, or reap a child on its own.

`Session.run` is a program like any other.  It stops only if a step asks for something that the
caller is not in a position to do.
-/

namespace Coprocess.Session

open Host

/-! ### An allocator that keeps a record -/

/-- What an allocator was asked. -/
inductive Asked where
  | acquire (modes : Bool) (size : Option WindowSize)
  | release (slaveName : String)
deriving DecidableEq, Repr

/-- How the recording allocator differs from the native one. -/
structure Recording where
  /-- The name under which slaves are handed out. -/
  rename : Option String := none
  failAcquire : Option Errno := none
  failRelease : Option Errno := none
deriving Repr

/-- The allocator that records what it is asked, and then fails or does what the native one does.  A
release is only recorded. -/
def Recording.allocator (r : Recording) : Allocator (List Asked) where
  acquire asked modes size := do
    let asked := asked ++ [.acquire modes.isSome size]
    match r.failAcquire with
    | some reason => return (.error (.system "posix_openpt" reason), asked)
    | none =>
      match ← Allocator.acquireNative modes size with
      | .error reason => return (.error reason, asked)
      | .ok pair => return (.ok { pair with slaveName := r.rename.getD pair.slaveName }, asked)
  release asked slaveName := do
    let asked := asked ++ [.release slaveName]
    match r.failRelease with
    | some reason => return (.error (.system "release" reason), asked)
    | none => return (.ok (), asked)

/-! ### Steps and answers -/

/-- A request for a coprocess. -/
structure Opening where
  command : Command
  /-- Whether it runs on a terminal. -/
  onTerminal : Bool := false
  options : TerminalOptions := {}
  exec : ExecSettings := {}
  searchPath : Option Bytes := none
  /-- Whether the recording allocator is in charge. -/
  recorded : Bool := false
  /-- How many descriptors can be opened meanwhile. -/
  budget : Option Nat := none
  /-- Whether the caller gives up its privileges, and with them the right to fork. -/
  unprivileged : Bool := false

/-- A step of a session; all but two of them are about the coprocess kept under a number. -/
inductive Step where
  | launch (h : Nat) (o : Opening)
  | write (h : Nat) (data : Bytes)
  | flush (h : Nat)
  | read (h : Nat) (count : Nat) (timeout : Duration)
  | closeInput (h : Nat)
  | close (h : Nat) (alarm : Option Duration)
  | state (h : Nat)
  | slots (h : Nat)
  | describe (h : Nat)
  | cloneInput (h : Nat)
  | writeClone (h : Nat) (data : Bytes)
  | dropClone (h : Nat)
  | kill (h : Nat) (signal : Int)
  | awaitExit (h : Nat)
  | reap (h : Nat)
  | drop (h : Nat)
  | asked

/-- The answer to a step. -/
inductive Answer where
  | launched (onTerminal : Bool) (positive : Bool) (cloexec : List Bool)
  | failed (reason : Failure)
  | ioFailed (reason : SystemError)
  | noHandle
  | noClone
  | done
  | data (bytes : Bytes)
  | inputClosed (closed : Bool)
  | ended (status : Status)
  | state (input output closed onTerminal : Bool) (status : Option Status)
  | pipeSlots (input output : Slot)
  | terminalSlots (master : Slot) (slaveName : String)
  | described (text : String)
  | clones (count : Nat)
  | killed (reached : Bool)
  | waited (reached : Bool)
  | reaped
  /-- The child could not be reaped. -/
  | notReaped (reason : Errno)
  | dropped
  | asked (calls : List Asked)

/-- A coprocess that is kept. -/
structure Kept where
  handle : Handle
  /-- The cloned descriptors, newest first. -/
  clones : List Fd := []
  recorded : Bool

/-- What a session carries along. -/
structure Progress where
  kept : List (Nat × Kept) := []
  asked : List Asked := []

namespace Progress

/-- The coprocess kept under a number. -/
def find? (p : Progress) (h : Nat) : Option Kept := (p.kept.find? (·.1 == h)).map (·.2)

/-- Keeps a coprocess under a number. -/
def put (p : Progress) (h : Nat) (k : Kept) : Progress :=
  { p with kept := (h, k) :: p.kept.filter (·.1 != h) }

/-- Keeps nothing under a number. -/
def remove (p : Progress) (h : Nat) : Progress := { p with kept := p.kept.filter (·.1 != h) }

end Progress

/-! ### Carrying out steps -/

/-- Runs a program under the allocator that is in charge. -/
def withAllocator {α : Type} (r : Recording) (recorded : Bool) (p : Progress)
    (program : Program α) :
    Program (α × Progress) := do
  if recorded then
    let (a, asked) ← program.allocatedBy r.allocator p.asked
    return (a, { p with asked })
  else
    let (a, _) ← program.allocatedBy Allocator.native ()
    return (a, p)

/-- Whether a descriptor is marked to end with the image. -/
def isCloexec (s : Slot) : Program Bool := do
  match s.fd with
  | none => return false
  | some fd =>
    match ← Program.request (.getCloexec fd) with
    | .ok on => return on
    | .error _ => return false

/-- Drops what is kept of a coprocess. -/
def discard (k : Kept) : Program Unit := do
  k.handle.drop
  Launcher.closeAll k.clones

/-- Launches a coprocess within the limits that are asked for; `none` if they cannot be had. -/
def launch (r : Recording) (o : Opening) (block : List Bytes) (p : Progress) :
    Program (Option (Except Failure Handle × Progress)) := do
  -- A host that does not let privileges go ends the session.
  let allowed ← if o.unprivileged then pure (← Program.request .dropPrivileges).isOk else pure true
  if !allowed then return none
  else
    let launcher : Launcher := { exec := o.exec, searchPath := o.searchPath }
    if o.budget.isSome then Program.request (.limitDescriptors o.budget)
    let result ← withAllocator r o.recorded p
      (if o.onTerminal then launcher.openTerminal o.command o.options block
        else launcher.openPiped o.command block)
    if o.budget.isSome then Program.request (.limitDescriptors none)
    return some result

/-- Carries out a step on a coprocess that is kept. -/
def stepOn (r : Recording) (h : Nat) (k : Kept) (p : Progress) : Step → Program (Progress × Answer)
  | .write _ data => do
    match ← Transfer.writeAll k.handle.write data with
    | .ok () => return (p, .done)
    | .error reason => return (p, .ioFailed reason)
  | .flush _ => do
    match ← k.handle.flush with
    | .ok () => return (p, .done)
    | .error reason => return (p, .ioFailed reason)
  | .read _ count timeout => do
    match k.handle.transport.output.fd with
    | none => return (p, .ioFailed .closed)
    | some fd =>
      match ← readWithin fd k.handle.read count timeout with
      | .ok data => return (p, .data data)
      | .error reason => return (p, .ioFailed reason)
  | .closeInput _ => do
    let (handle, closed) ← k.handle.closeInput
    return (p.put h { k with handle }, .inputClosed closed)
  | .close _ alarm => do
    if let some interval := alarm then
      let _ ← Program.request (.setDisposition alarmSignal .caught)
      Program.request (.setAlarm interval)
    let ((handle, result), p) ← withAllocator r k.recorded p k.handle.close
    if alarm.isSome then
      Program.request (.setAlarm 0)
      let _ ← Program.request (.setDisposition alarmSignal .default)
    return (p.put h { k with handle }, match result with
      | .ok status => .ended status
      | .error reason => .failed reason)
  | .state _ =>
    let t := k.handle.transport
    return (p, .state (!t.input.isClosed) (!t.output.isClosed) t.isClosed t.isTerminal
      k.handle.status)
  | .slots _ =>
    match k.handle.transport with
    | .pipes input output => return (p, .pipeSlots input output)
    | .terminal master slaveName => return (p, .terminalSlots master slaveName)
  | .describe _ => return (p, .described (k.handle.describe "_"))
  | .cloneInput _ => do
    match ← k.handle.cloneInput with
    | .ok fd =>
      let k := { k with clones := fd :: k.clones }
      return (p.put h k, .clones k.clones.length)
    | .error reason => return (p, .ioFailed reason)
  | .writeClone _ data => do
    match k.clones with
    | [] => return (p, .noClone)
    | fd :: _ =>
      match ← Transfer.writeAll (Transfer.writeFd fd) data with
      | .ok () => return (p, .done)
      | .error reason => return (p, .ioFailed reason)
  | .dropClone _ => do
    match k.clones with
    | [] => return (p, .clones 0)
    | fd :: rest =>
      let _ ← Program.request (.close fd)
      return (p.put h { k with clones := rest }, .clones rest.length)
  | .kill _ signal => do
    if signal < 0 then return (p, .killed false)
    else return (p, .killed (← Program.request (.kill k.handle.pid signal.toNat)).isOk)
  | .awaitExit _ => do
    return (p, .waited (← Program.request (.awaitEnd k.handle.pid)).isOk)
  | .reap _ => do
    match ← Program.request (.wait (some k.handle.pid) true) with
    | .ok _ => return (p, .reaped)
    | .error reason => return (p, .notReaped reason)
  | .drop _ => do
    discard k
    return (p.remove h, .dropped)
  | .launch _ _ => return (p, .done)
  | .asked => return (p, .done)

/-- The number of the coprocess that a step is about. -/
def Step.number : Step → Nat
  | .launch h _ | .write h _ | .flush h | .read h _ _ | .closeInput h | .close h _
  | .state h | .slots h
  | .describe h | .cloneInput h | .writeClone h _ | .dropClone h | .kill h _
  | .awaitExit h | .reap h
  | .drop h => h
  | .asked => 0

/-- Carries out a step; `none` if the caller is not in a position to. -/
def step (r : Recording) (block : List Bytes) (p : Progress) (s : Step) :
    Program (Option (Progress × Answer)) := do
  match s with
  | .asked => return some (p, .asked p.asked)
  | .launch h o =>
    match ← launch r o block p with
    | none => return none
    | some (.error reason, p) => return some (p, .failed reason)
    | some (.ok handle, p) =>
      -- The descriptors are looked at before the old handle frees its own.
      let old := p.find? h
      let cloexec := [← isCloexec handle.transport.input, ← isCloexec handle.transport.output]
      if let some k := old then discard k
      return some (p.put h { handle, recorded := o.recorded },
        .launched handle.transport.isTerminal (0 < handle.pid) cloexec)
  | s =>
    match p.find? s.number with
    | none => return some (p, .noHandle)
    | some k => return some (← stepOn r s.number k p s)

/-- Carries out steps in order and collects the answers; `none` if the caller was not in a position
to carry out one of them. -/
def run (r : Recording) (block : List Bytes) (steps : List Step) : Program (Option (List Answer)) :=
  Program.iterate (({} : Progress), steps, ([] : List Answer)) fun (p, steps, answers) => do
    match steps with
    | [] => return .inr (some answers.reverse)
    | s :: rest =>
      match ← step r block p s with
      | none => return .inr none
      | some (p, answer) => return .inl (p, rest, answer :: answers)

end Coprocess.Session
