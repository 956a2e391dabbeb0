import Coprocess.Host.Kernel.Names

/-!
# Requests about processes

Forking, taking on an image, ending and waiting.  A file becomes an image if the machine knows its
program, or through the interpreter that its first line names; the interpreter gets the path of the
file in the place of the first argument.  A file with neither has no format that could be executed.

The directory of a process holds a link to the file of its image.  A process that has taken on none
has no such link.
-/

namespace Coprocess.Host

open Outcome

namespace World

/-! ### Images -/

/-- The longest argument or environment entry, its terminating zero byte included. -/
def argumentLimit : Nat := 131072

/-- How much room arguments and environment have together. -/
def imageLimit : Nat := 2097152

/-- The room that a list of arguments or entries takes. -/
def roomFor (entries : List Bytes) : Nat := entries.foldl (fun room e => room + e.length + 9) 0

/-- Whether arguments and environment can be handed to an image. -/
def fits (argv envv : List Bytes) : Bool :=
  (argv ++ envv).all (fun e => e.length < argumentLimit) && roomFor argv + roomFor envv ≤ imageLimit

/-- How much of a file is looked at for the name of its interpreter. -/
def headerLimit : Nat := 256

/-- How many interpreters can be interpreted by others. -/
def interpreterLimit : Nat := 5

/-- Whether a byte is a blank. -/
def isBlank (c : UInt8) : Bool := c == 0x20 || c == 0x09

/-- The interpreter that a file names in its first line, with its argument if there is one. -/
def interpreter? (content : ByteArray) : Option (Bytes × Option Bytes) :=
  match slice content 0 headerLimit with
  | 0x23 :: 0x21 :: header =>
    let line := header.takeWhile (· != 10)
    -- A name that is cut off by the limit is no name.
    let whole := line.length < header.length || content.size < headerLimit
    let words := (line.dropWhile isBlank).reverse.dropWhile isBlank |>.reverse
    let name := words.takeWhile fun c => !isBlank c && c != 0
    let argument := (words.drop name.length).dropWhile isBlank
    if name.isEmpty || (!whole && name.length == words.length) then none
    else some (name, if argument.isEmpty then none else some argument)
  | _ => none

/-- What a path to be executed stands for. -/
structure Image where
  program : String
  argv : List Bytes
  /-- The file of the program, by its path from the root. -/
  path : Bytes
deriving DecidableEq, Repr

/-- The program and arguments that a path stands for. -/
def imageOf (w : World) (pid : Pid) : Nat → Bytes → List Bytes → Except Errno Image
  | 0, _, _ => .error .ELOOP
  | depth + 1, path, argv => do
    let target ← w.resolve pid path true
    let file := w.files.get (← w.fileAt pid path true)
    match file.node with
    | .program program =>
      if file.allows 1 then .ok { program, argv, path := w.files.targetPath target }
      else .error .EACCES
    | .regular content =>
      if !file.allows 1 then .error .EACCES
      else match interpreter? content with
        | some (name, argument) =>
          -- The interpreter may itself be a script.
          imageOf w pid depth name (name :: argument.toList ++ path :: argv.drop 1)
        | none => .error .ENOEXEC
    | _ => .error .EACCES

/-! ### What is told of processes -/

/-- The directory that tells of a process. -/
def directoryOf? (w : World) (pid : Pid) : Option FileNumber := do
  w.files.lookup (← w.files.lookup Files.root (Bytes.ofText "proc")) (Bytes.ofText (toString pid))

/-- The name of the link to the image of a process. -/
def imageName : Bytes := Bytes.ofText "exe"

/-- Links a process to the file of its image. -/
def linkImage (w : World) (pid : Pid) (path : Bytes) : World :=
  match w.directoryOf? pid with
  | none => w
  | some directory =>
    let (files, n) := w.files.add { node := .link path, permissions := 0o777 }
    { w with files := files.enter directory imageName n }

/-- The file of a process's image, if it has taken on one. -/
def imagePath? (w : World) (pid : Pid) : Option Bytes := do
  match (w.files.get (← w.files.lookup (← w.directoryOf? pid) imageName)).node with
  | .link path => some path
  | _ => none

/-- Enters the directory that tells of a process. -/
def enterProcess (w : World) (pid : Pid) : World :=
  match w.files.lookup Files.root (Bytes.ofText "proc") with
  | none => w
  | some proc =>
    let (files, arguments) := w.files.add { node := .device (.arguments pid), permissions := 0o444 }
    let (files, environment) :=
      files.add { node := .device (.environment pid), permissions := 0o400 }
    let entries := [(Bytes.ofText "cmdline", arguments), (Bytes.ofText "environ", environment)]
    let (files, directory) := files.add { node := .directory entries, permissions := 0o555 }
    { w with files := files.enter proc (Bytes.ofText (toString pid)) directory }

/-! ### Images and copies -/

/-- Takes on a new image. -/
def execute (w : World) (pid : Pid) (path : Bytes) (argv envv : List Bytes) : Outcome Errno :=
  if !fits (path :: argv) envv then same w .E2BIG
  else match w.imageOf pid interpreterLimit path (if argv.isEmpty then [[]] else argv) with
    | .error reason => same w reason
    | .ok i =>
      .image i.program i.argv envv
        ((w.modify pid (·.become i.argv envv)).linkImage pid i.path).settle

/-- A copy of a process under a number of its own, with the same image. -/
def fork (w : World) (pid : Pid) : Pid × World :=
  let child := w.nextPid
  let copy :=
    { w.process pid with parent := pid, arrived := [], interrupted := false, alarm := none }
  let w := { w with processes := w.processes ++ [(child, copy)], nextPid := child + 1 }
  let w := w.enterProcess child
  (child, (w.imagePath? pid).elim w (w.linkImage child))

/-! ### Ends -/

/-- The children of a process. -/
def children (w : World) (pid : Pid) : List (Pid × Process) :=
  w.processes.filter fun (_, p) => p.parent == pid

/-- Forgets a process that has ended. -/
def reap (w : World) (pid : Pid) : World :=
  let files := match w.files.lookup Files.root (Bytes.ofText "proc") with
    | some proc => w.files.leave proc (Bytes.ofText (toString pid))
    | none => w.files
  { w with processes := w.processes.filter (·.1 != pid), files }

/-- Waits for a child to end, and reaps it. -/
def wait (w : World) (pid : Pid) (child : Option Pid) (block : Bool) :
    Outcome (Except Errno (Pid × WaitReport)) :=
  let candidates := (w.children pid).filter fun (n, _) => child.all (· == n)
  match candidates with
  | [] => refuse w .ECHILD
  | (first, _) :: _ =>
    match candidates.findSome? fun (n, p) => p.ended.map fun report => (n, report) with
    | some (n, report) => .reply (.ok (n, report)) (w.reap n)
    | none => if block then .later none else same w (.ok (first, .stillAlive))

/-- Waits for a child to end, and leaves it to be reaped. -/
def awaitEnd (w : World) (pid child : Pid) : Outcome (Except Errno Unit) :=
  match (w.children pid).find? (·.1 == child) with
  | none => refuse w .ECHILD
  | some (_, p) => if p.isAlive then .later none else carriedOut w

/-- Sends a signal as a process asks for it; signal 0 only asks whether the target is there. -/
def kill (w : World) (pid target : Pid) (s : Signal) : Outcome (Except Errno Unit) :=
  if lastSignal < s then refuse w .EINVAL
  else if (w.process? target).isNone then refuse w .ESRCH
  else if s == 0 then carriedOut w
  else
    let w := w.signal target s
    -- A process may have killed itself.
    if w.isAlive pid then carriedOut w else .gone w

/-- Starts a session, whose number is that of its leader. -/
def newSession (w : World) (pid : Pid) : Outcome (Except Errno Unit) :=
  if !(w.members pid).isEmpty then refuse w .EPERM
  else carriedOut (w.modify pid ({ · with session := pid, group := pid }))

/-! ### Signals, limits and time -/

/-- Changes what is done about a signal. -/
def setDisposition (w : World) (pid : Pid) (s : Signal) (d : Disposition) :
    Outcome (Except Errno Disposition) :=
  if s == 0 || lastSignal < s || s == killSignal || s == stopSignal then refuse w .EINVAL
  else .reply (.ok ((w.process pid).dispositionOf s)) (w.modify pid (·.setDisposition s d))

/-- The number below which exactly `more` numbers are free. -/
def limitFor (t : Table Description) (more : Nat) : Fd :=
  (List.range more).foldl (fun least _ => t.lowestFree least + 1) 0

/-- Limits how many more descriptors can be bound: those up to the `more`-th free number. -/
def limitDescriptors (w : World) (pid : Pid) (more : Option Nat) : World :=
  w.modify pid fun p => { p with descriptorLimit := more.map (limitFor p.table) }

/-- Sets the alarm, or takes it back. -/
def setAlarm (w : World) (pid : Pid) (interval : Nat) : World :=
  let alarm := if interval == 0 then none else some (interval, w.clock + interval)
  w.modify pid ({ · with alarm })

/-- When the next alarm goes off. -/
def nextAlarm (w : World) : Option Instant :=
  (w.processes.filterMap fun (_, p) => p.alarm.map (·.2)).min?

/-- Sets the clock, and sends the alarms that have become due. -/
def advance (w : World) (now : Instant) : World :=
  let due := w.processes.filterMap fun (pid, p) =>
    p.alarm.bind fun (interval, time) => if time ≤ now then some (pid, interval) else none
  let w := { w with clock := now }
  if due.isEmpty then w
  else
    let w := due.foldl (fun w (pid, interval) =>
      w.modify pid ({ · with alarm := some (interval, now + interval) })) w
    (w.send (due.map fun (pid, _) => (pid, alarmSignal))).settle

end World

end Coprocess.Host
