import Coprocess.Host.Process

/-!
# The state of a machine

Everything that the programs on a machine share: its files, pipes, terminals and processes, the
time, and what was told of events.  Who still holds a pipe or a terminal open is not counted
anywhere; it is what the descriptor tables say (`World.isHeld`).

A signal can end a process, the end of a process can take its terminal from others, and that sends
signals in turn.  `World.deliver` works through the signals that are due until none is left; since a
process ends at most once, a bound can be computed beforehand.
-/

namespace Coprocess.Host

/-- An open file of the tree. -/
structure Opened where
  file : FileNumber
  position : Nat := 0
  read : Bool
  write : Bool
  append : Bool
deriving Repr, Inhabited

/-- The state of a machine. -/
structure World where
  files : Files := {}
  opened : Array Opened := #[]
  pipes : Array Bytes := #[]
  terminals : Array Terminal := #[]
  /-- The directory that holds the devices of terminals. -/
  terminalDirectory : FileNumber := 0
  processes : List (Pid × Process) := []
  nextPid : Pid := 100
  clock : Instant := 0
  /-- The events that were told, last first. -/
  events : List (Event) := []
deriving Inhabited

namespace World

/-! ### Access -/

/-- The process with a number. -/
def process? (w : World) (pid : Pid) : Option Process := (w.processes.find? (·.1 == pid)).map (·.2)

/-- The process with a number; an empty one stands for those that are gone. -/
def process (w : World) (pid : Pid) : Process :=
  (w.process? pid).getD { parent := 0, session := 0, group := 0 }

/-- Whether a process is there and has not ended. -/
def isAlive (w : World) (pid : Pid) : Bool := (w.process? pid).any (·.isAlive)

/-- Whether a process can go on. -/
def isRunnable (w : World) (pid : Pid) : Bool :=
  (w.process? pid).any fun p => p.isAlive && !p.stopped

/-- The machine with one process changed. -/
def modify (w : World) (pid : Pid) (f : Process → Process) : World :=
  { w with processes := w.processes.map fun (n, p) => if n == pid then (n, f p) else (n, p) }

/-- Whether some process holds a description. -/
def isHeld (w : World) (test : Description → Bool) : Bool :=
  w.processes.any fun (_, p) => p.table.any fun (_, b) => test b.description

/-- The terminal with a number. -/
def terminal (w : World) (t : Nat) : Terminal := w.terminals.getD t {}

/-- The machine with one terminal replaced. -/
def setTerminal (w : World) (t : Nat) (state : Terminal) : World :=
  { w with terminals := w.terminals.setIfInBounds t state }

/-- The number of the terminal that controls a process. -/
def controlling (w : World) (pid : Pid) : Option Nat :=
  let session := (w.process pid).session
  w.terminals.findIdx? fun t => t.session == some session && !t.hungUp

/-- The machine with an event told. -/
def told (w : World) (e : Event) : World := { w with events := e :: w.events }

/-! ### Signals -/

/-- A signal on its way to a process. -/
abbrev Delivery := Pid × Signal

/-- The members of a process group. -/
def members (w : World) (group : Pid) : List Pid :=
  (w.processes.filter fun (_, p) => p.group == group && p.isAlive).map (·.1)

/-- Whether nobody outside a process group, but in its session, is the parent of one of its
members. -/
def isOrphaned (w : World) (group : Pid) : Bool :=
  w.processes.all fun (_, p) => p.group != group || !p.isAlive ||
    !((w.process? p.parent).any fun q => q.isAlive && q.session == p.session && q.group != group)

/-- Ends a process.  Its descriptors are closed, its children are left to nobody, and if it led a
session the others on its terminal are told. -/
def finish (w : World) (pid : Pid) (report : WaitReport) : World × List Delivery :=
  let p := w.process pid
  let w := { w with
    processes := (w.processes.filter fun (_, q) => !(q.parent == pid && !q.isAlive)).map
      fun (n, q) => if n == pid then
        (n, { q with ended := some report, table := [], stopped := false, alarm := none })
      else if q.parent == pid then (n, { q with parent := 1 })
      else (n, q) }
  -- The parent is told that a child has ended.
  let ofParent := if (w.process? p.parent).isSome then [(p.parent, 17)] else []
  if p.session == pid then
    match w.terminals.findIdx? (·.session == some pid) with
    | none => (w, ofParent)
    | some t =>
      let terminal := w.terminal t
      let group := (terminal.foreground.map w.members).getD []
      let signals := if terminal.hungUp then [hangupSignal, continueSignal] else [hangupSignal]
      (w.setTerminal t { terminal with session := none, foreground := none },
        ofParent ++ group.flatMap fun n => signals.map fun s => (n, s))
  else (w, ofParent)

/-- Hands one signal to a process, with the signals that follow from it. -/
def receive (w : World) (pid : Pid) (s : Signal) : World × List Delivery :=
  match w.process? pid with
  | none => (w, [])
  | some p =>
    if !p.isAlive then (w, [])
    else
      let w :=
        if s == continueSignal || s == killSignal then w.modify pid ({ · with stopped := false })
        else w
      match p.dispositionOf s, effectOf s with
      | .ignored, _ => (w, [])
      | .caught, _ =>
        (w.modify pid fun p =>
          { p with arrived := if p.arrived.contains s then p.arrived else p.arrived ++ [s],
                   interrupted := true },
          [])
      | .default, .ends => w.finish pid (.killed s false)
      | .default, .stops =>
        -- Nobody would be there to let the group go on.
        if s != stopSignal && w.isOrphaned p.group then (w, [])
        else (w.modify pid ({ · with stopped := true }), [])
      | .default, _ => (w, [])

/-- Hands out signals, and those that follow from them, as long as there are any. -/
def deliver : Nat → List Delivery → World → World
  | 0, _, w => w
  | _ + 1, [], w => w
  | bound + 1, (pid, s) :: rest, w =>
    let (w, more) := w.receive pid s
    deliver bound (rest ++ more) w

/-- How many signals can follow from `due` signals: the end of each process is told to its parent
and to the members of one group, twice at most. -/
def deliveryBound (w : World) (due : Nat) : Nat :=
  due + (w.processes.length + 1) * (2 * w.processes.length + 1) + 1

/-- Sends signals. -/
def send (w : World) (due : List Delivery) : World := deliver (w.deliveryBound due.length) due w

/-! ### Terminals without a master -/

/-- Hangs a terminal up: its device goes away, and the leader of its session is told. -/
def hangUp (w : World) (t : Nat) : World :=
  let terminal := w.terminal t
  let w := { w with files := w.files.leave w.terminalDirectory (Bytes.ofText (toString t)) }
  let w := w.setTerminal t { terminal with hungUp := true }
  match terminal.session with
  | some leader => w.send [(leader, hangupSignal), (leader, continueSignal)]
  | none => w

/-- Hangs up the first of the terminals from number `t` on that nobody holds the master of, and so
on. -/
def hangUpFrom (w : World) : Nat → World
  | 0 => w
  | t + 1 =>
    let w := hangUpFrom w t
    if !(w.terminal t).hungUp && !w.isHeld (· == .master t) then w.hangUp t else w

/-- Hangs up every terminal that nobody holds the master of. -/
def settle (w : World) : World := w.hangUpFrom w.terminals.size

/-- Ends a process and sends the signals that follow. -/
def finishAndTell (w : World) (pid : Pid) (report : WaitReport) : World :=
  let (w, due) := w.finish pid report
  (w.send due).settle

/-- Sends a signal to a process. -/
def signal (w : World) (pid : Pid) (s : Signal) : World := (w.send [(pid, s)]).settle

end World

end Coprocess.Host
