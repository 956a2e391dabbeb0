import Coprocess.Host.Machine

/-!
# A fresh machine

What a machine holds before anything runs on it: the directories and devices that programs rely on,
the programs that it knows, and an empty directory to work in.  One process stands in that
directory, with its standard streams open and the signal for broken pipes ignored; everything else
descends from it.
-/

namespace Coprocess.Host

/-- The parts of a path from the root, written with slashes. -/
def pathParts (path : String) : List Bytes := Files.components (Bytes.ofText path)

namespace Files

/-- The directory at a path from the root, made with all that it lies in where it is missing. -/
def grow (fs : Files) (start : FileNumber) : List Bytes → Files × FileNumber
  | [] => (fs, start)
  | name :: rest =>
    match fs.lookup start name with
    | some n => grow fs n rest
    | none =>
      let (fs, n) := fs.add { node := .directory [], permissions := 0o755 }
      grow (fs.enter start name n) n rest

/-- Enters a file in a directory. -/
def place (fs : Files) (directory : FileNumber) (name : String) (node : Node) (permissions : Nat) :
    Files :=
  let (fs, n) := fs.add { node, permissions }
  fs.enter directory (Bytes.ofText name) n

end Files

/-- The path of the directory that a fresh machine's process works in. -/
def workPath : String := "/work"

/-- The files of a fresh machine with the given programs, the directory of terminal devices, and the
directory to work in. -/
def freshFiles (programs : List String) : Files × FileNumber × FileNumber :=
  let fs : Files := {}
  let (fs, bin) := fs.grow Files.root (pathParts "/usr/bin")
  let fs := programs.foldl (fun fs name => fs.place bin name (.program name) 0o755) fs
  let fs := fs.place Files.root "bin" (.link (Bytes.ofText "usr/bin")) 0o777
  let (fs, dev) := fs.grow Files.root (pathParts "/dev")
  let (fs, pts) := fs.grow dev (pathParts "pts")
  let devices := [("null", Device.null), ("full", .full), ("zero", .zero), ("tty", .ownTerminal),
    ("ptmx", .multiplexer), ("stdin", .descriptor 0), ("stdout", .descriptor 1),
    ("stderr", .descriptor 2)]
  let fs := devices.foldl (fun fs (name, d) => fs.place dev name (.device d) 0o666) fs
  let (fs, fd) := fs.grow dev (pathParts "fd")
  let fs := (List.range 10).foldl
    (fun fs n => fs.place fd (toString n) (.device (.descriptor n)) 0o666) fs
  let (fs, proc) := fs.grow Files.root (pathParts "/proc")
  let fs := fs.place proc "self" .ownProcess 0o777
  let (fs, _) := fs.grow Files.root (pathParts "/tmp")
  let (fs, _) := fs.grow Files.root (pathParts "/root")
  let (fs, work) := fs.grow Files.root (pathParts workPath)
  (fs, pts, work)

/-- The number of the process that a fresh machine begins with. -/
def firstPid : Pid := 100

/-- A fresh machine, whose process has the given environment. -/
def freshWorld (programs : List String) (envv : List Bytes) : World :=
  let (files, pts, work) := freshFiles programs
  let stream : Binding Description := { description := .null true true }
  let process : Process := {
    parent := 0, session := 50, group := 50, place := [work], envv
    table := [(0, stream), (1, stream), (2, stream)]
    dispositions := [(13, .ignored)] }
  let w : World :=
    { files, terminalDirectory := pts, processes := [(firstPid, process)], nextPid := firstPid + 1 }
  w.enterProcess firstPid

/-- How many steps a program is given before it counts as one that never ends. -/
def stepBudget : Nat := 100000000

/-- Runs a program as the first process of a machine. -/
def World.runFirst {α : Type} (w : World) (images : Images) (p : Program α) : Option (α × World) :=
  run images firstPid stepBudget p [] w

end Coprocess.Host
