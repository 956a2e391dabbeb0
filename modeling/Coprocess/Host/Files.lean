import Coprocess.Errno
import Coprocess.Host.Call

/-!
# File trees

The files of a machine are numbered, and number 0 is the root directory.  A directory maps names to
numbers; that is all the structure there is.  What a path means depends on where one stands, and a
place is therefore a stack of directories, innermost first, which makes `..` the tail of the stack.

`Files.walk` follows a path.  It stops at the first thing wrong with it, in the order in which the
components are met, and follows at most `linkLimit` symbolic links, which is what ends a walk
through links that lead to themselves.
-/

namespace Coprocess.Host

/-- The number of a file. -/
abbrev FileNumber := Nat

/-- Files that are not kept in the tree but made up when they are opened. -/
inductive Device where
  /-- Takes everything and is always at its end. -/
  | null
  /-- Holds zero bytes without end and has no room for anything. -/
  | full
  /-- Takes everything and holds zero bytes without end. -/
  | zero
  /-- The controlling terminal of whoever opens it. -/
  | ownTerminal
  /-- Makes a new terminal each time it is opened. -/
  | multiplexer
  /-- The slave side of a terminal. -/
  | slave (terminal : Nat)
  /-- What whoever opens it has open under a number. -/
  | descriptor (fd : Fd)
  /-- The arguments of a process, each ended by a zero byte. -/
  | arguments (pid : Pid)
  /-- The environment of a process, each entry ended by a zero byte. -/
  | environment (pid : Pid)
deriving DecidableEq, Repr

/-- What a file is. -/
inductive Node where
  | regular (content : ByteArray)
  | directory (entries : List (Bytes × FileNumber))
  | link (target : Bytes)
  /-- A link to the directory of whoever follows it. -/
  | ownProcess
  | device (d : Device)
  /-- A program that the machine knows by name. -/
  | program (name : String)
deriving Inhabited

/-- A file: what it is, and what its owner may do with it. -/
structure File where
  node : Node
  permissions : Nat
deriving Inhabited

namespace File

/-- Whether the owner may use the file in all of the given ways (4 read, 2 write, 1 execute). -/
def allows (f : File) (ways : Nat) : Bool := (f.permissions / 64) &&& ways == ways

/-- The kind of the file. -/
def kind (f : File) : FileKind :=
  match f.node with
  | .regular _ | .program _ => .regular
  | .directory _ => .directory
  | .link _ | .ownProcess => .link
  | .device (.arguments _) | .device (.environment _) => .regular
  | .device _ => .device

/-- The number of bytes the file holds. -/
def size (f : File) : Nat :=
  match f.node with
  | .regular content => content.size
  | .link target => target.length
  | .program _ => 1
  | _ => 0

end File

/-- The files of a machine. -/
structure Files where
  all : Array File := #[{ node := .directory [], permissions := 0o755 }]
deriving Inhabited

/-- A directory with the directories it lies in, innermost first; the root is the empty rest. -/
abbrev Place := List FileNumber

/-- Where a path leads: the directory, the name in it, and the file of that name if there is one.
The name is empty if the path leads to a directory without naming it. -/
structure Target where
  place : Place
  name : Bytes
  file : Option FileNumber
  /-- Whether only a directory will do, since the path ends in a slash. -/
  slash : Bool := false
deriving Inhabited

namespace Files

/-- The number of the root directory. -/
def root : FileNumber := 0

/-- The longest path, its terminating zero byte included. -/
def pathLimit : Nat := 4096

/-- The longest name in a directory. -/
def nameLimit : Nat := 255

/-- The number of symbolic links that one path may lead through. -/
def linkLimit : Nat := 40

/-- The file with a number. -/
def get (fs : Files) (n : FileNumber) : File :=
  fs.all.getD n { node := .regular .empty, permissions := 0 }

/-- The files with one of them replaced. -/
def set (fs : Files) (n : FileNumber) (f : File) : Files :=
  { fs with all := fs.all.setIfInBounds n f }

/-- The files with a new one, and its number. -/
def add (fs : Files) (f : File) : Files × FileNumber :=
  ({ fs with all := fs.all.push f }, fs.all.size)

/-- The entries of a directory. -/
def entries (fs : Files) (n : FileNumber) : List (Bytes × FileNumber) :=
  match (fs.get n).node with
  | .directory entries => entries
  | _ => []

/-- Whether a number is that of a directory. -/
def isDirectory (fs : Files) (n : FileNumber) : Bool :=
  match (fs.get n).node with
  | .directory _ => true
  | _ => false

/-- The file of a name in a directory. -/
def lookup (fs : Files) (dir : FileNumber) (name : Bytes) : Option FileNumber :=
  (List.find? (·.1 == name) (fs.entries dir)).map (·.2)

/-- The directory with its entries changed. -/
def modifyEntries (fs : Files) (dir : FileNumber)
    (f : List (Bytes × FileNumber) → List (Bytes × FileNumber)) : Files :=
  fs.set dir { fs.get dir with node := .directory (f (fs.entries dir)) }

/-- Enters a file under a name, in the place of what the name meant before. -/
def enter (fs : Files) (dir : FileNumber) (name : Bytes) (n : FileNumber) : Files :=
  fs.modifyEntries dir fun es => es.filter (·.1 != name) ++ [(name, n)]

/-- Removes a name from a directory. -/
def leave (fs : Files) (dir : FileNumber) (name : Bytes) : Files :=
  fs.modifyEntries dir fun es => es.filter (·.1 != name)

/-! ### Paths -/

/-- The byte that separates the components of a path. -/
def separator : UInt8 := 0x2F

/-- The components of a path. -/
def components (path : Bytes) : List Bytes := (path.splitOnP (· == separator)).filter (!·.isEmpty)

/-- The place itself, as the end of a path. -/
def standing (place : Place) : Target :=
  ⟨place.drop 1, [], some (place.headD root), true⟩

/-- Follows components from a place.  `links` more links may be followed; `self` is the name of the
directory of the process that asks. -/
def walk (fs : Files) (self : Bytes) (follow : Bool) (links : Nat) (place : Place)
    (path : List Bytes) (slash : Bool) : Except Errno Target :=
  match path with
  -- The path led back to a directory on the way and names nothing in it.
  | [] => .ok (standing place)
  | name :: rest =>
    let here := place.headD root
    if name == [0x2E] then walk fs self follow links place rest slash
    else if name == [0x2E, 0x2E] then walk fs self follow links (place.drop 1) rest slash
    else if nameLimit < name.length then .error .ENAMETOOLONG
    else if !(fs.get here).allows 1 then .error .EACCES
    else
      let last := rest.isEmpty
      match fs.lookup here name with
      | none => if last then .ok ⟨place, name, none, slash⟩ else .error .ENOENT
      | some n =>
        let through (target : Bytes) : Except Errno Target :=
          match links with
          | 0 => .error .ELOOP
          | links + 1 =>
            -- A relative link is followed from the directory that holds it.
            let start := if target.head? == some separator then [] else place
            walk fs self follow links start (components target ++ rest)
              (if last then slash || target.getLast? == some separator else slash)
        match (fs.get n).node with
        | .link target =>
          -- A slash after the name of a link asks for what it leads to.
          if last && !follow && !slash then .ok ⟨place, name, some n, slash⟩ else through target
        | .ownProcess =>
          if last && !follow && !slash then .ok ⟨place, name, some n, slash⟩ else through self
        | .directory _ =>
          if last then .ok ⟨place, name, some n, slash⟩
          else walk fs self follow links (n :: place) rest slash
        | _ => if last && !slash then .ok ⟨place, name, some n, slash⟩ else .error .ENOTDIR
termination_by (links, path.length)

/-- A name is looked up in the directory of a place, and means a file there. -/
structure Leads (fs : Files) (place : Place) (name : Bytes) (n : FileNumber) : Prop where
  proper : name ≠ [0x2E] ∧ name ≠ [0x2E, 0x2E]
  short : name.length ≤ nameLimit
  allowed : (fs.get (place.headD root)).allows 1 = true
  found : fs.lookup (place.headD root) name = some n

/-- A directory on the way is gone through. -/
theorem walk_directory {fs : Files} {self name : Bytes} {follow slash : Bool} {links : Nat}
    {place : Place} {rest : List Bytes} {n : FileNumber} {entries : List (Bytes × FileNumber)}
    (leads : fs.Leads place name n) (node : (fs.get n).node = .directory entries)
    (more : rest ≠ []) :
    fs.walk self follow links place (name :: rest) slash =
      fs.walk self follow links (n :: place) rest slash := by
  rw [walk]
  simp [-List.headD_eq_head?_getD, leads.proper, Nat.not_lt.2 leads.short, leads.allowed,
    leads.found, node, more]

/-- A regular file is the end of the way. -/
theorem walk_regular {fs : Files} {self name : Bytes} {follow : Bool} {links : Nat} {place : Place}
    {n : FileNumber} {content : ByteArray} (leads : fs.Leads place name n)
    (node : (fs.get n).node = .regular content) :
    fs.walk self follow links place [name] false = .ok ⟨place, name, some n, false⟩ := by
  rw [walk]
  simp [-List.headD_eq_head?_getD, leads.proper, Nat.not_lt.2 leads.short, leads.allowed,
    leads.found, node]

/-- Where a path leads for the process `self` that stands at `place`. -/
def resolve (fs : Files) (self : Pid) (place : Place) (path : Bytes) (follow : Bool) :
    Except Errno Target :=
  if path.isEmpty then .error .ENOENT
  else if pathLimit ≤ path.length then .error .ENAMETOOLONG
  else
    let start := if path.head? == some separator then [] else place
    fs.walk (Bytes.ofText (toString self)) follow linkLimit start (components path)
      (path.getLast? == some separator)

/-- The file a path leads to. -/
def find (fs : Files) (self : Pid) (place : Place) (path : Bytes) (follow : Bool) :
    Except Errno FileNumber := do
  match (← fs.resolve self place path follow).file with
  | some n => .ok n
  | none => .error .ENOENT

/-- The place that a path to a directory leads to. -/
def findPlace (fs : Files) (self : Pid) (place : Place) (path : Bytes) : Except Errno Place := do
  let target ← fs.resolve self place path true
  match target.file with
  | none => .error .ENOENT
  | some n =>
    if !fs.isDirectory n then .error .ENOTDIR
    else if !(fs.get n).allows 1 then .error .EACCES
    else if target.name.isEmpty then
      .ok (if n == root && target.place.isEmpty then [] else n :: target.place)
    else .ok (n :: target.place)

/-- The path of a place from the root. -/
def pathOf (fs : Files) (place : Place) : Bytes :=
  let names := (place.zip (place.drop 1 ++ [root])).map fun (n, parent) =>
    ((fs.entries parent).find? (·.2 == n)).map (·.1) |>.getD []
  if names.isEmpty then [separator] else names.reverse.flatMap fun name => separator :: name

/-- The path of a target from the root. -/
def targetPath (fs : Files) (target : Target) : Bytes :=
  (if target.place.isEmpty then [] else fs.pathOf target.place) ++ separator :: target.name

end Files

end Coprocess.Host
