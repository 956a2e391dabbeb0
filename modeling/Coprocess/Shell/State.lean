import Coprocess.Host.Program
import Coprocess.Environment
import Coprocess.Shell.Syntax

/-!
# The state of a shell

What a shell keeps from command to command.  A command that ends more than itself, such as one that
leaves a loop, says so in `flow`; whoever runs commands looks there before going on.
-/

namespace Coprocess.Shell

open Host

/-- What comes after a command. -/
inductive Flow where
  | next
  /-- Loops are left, so many of them. -/
  | leave (loops : Nat)
  /-- Loops are left but for the last, which goes on. -/
  | again (loops : Nat)
  /-- A function or script is left. -/
  | back
  /-- The shell ends. -/
  | ending
deriving DecidableEq, Repr, Inhabited

/-- A variable; one without a value may still be marked. -/
structure Variable where
  value : Option Bytes
  exported : Bool := false
  fixed : Bool := false
deriving Inhabited

/-- The options of a shell. -/
structure Options where
  exitOnError : Bool := false
  failOnUnset : Bool := false
  noPatterns : Bool := false
  noExecution : Bool := false
  trace : Bool := false
  exportAll : Bool := false
  noClobber : Bool := false
  verbose : Bool := false
deriving Inhabited

/-- The state of a shell. -/
structure State where
  /-- What the shell calls itself. -/
  name : Bytes
  pid : Pid
  /-- Where the shell stands, by the path that led there. -/
  place : Bytes := []
  params : List Bytes := []
  bindings : List (Bytes × Variable) := []
  functions : List (Bytes × Command) := []
  documents : List (Nat × Word) := []
  options : Options := {}
  /-- The permissions that new files do not have. -/
  mask : Nat := 0o022
  status : Nat := 0
  flow : Flow := .next
  line : Nat := 1
  /-- The builtin that is running, which messages name. -/
  running : Option Bytes := none
  lastJob : Option Pid := none
  jobs : List Pid := []
  /-- What is done about signals; number 0 stands for the end of the shell. -/
  traps : List (Signal × Bytes) := []
  loops : Nat := 0
  calls : Nat := 0
  /-- Whether the shell is a copy of another. -/
  copied : Bool := false
  /-- Whether a failing command is looked at by another one. -/
  tested : Bool := false
  /-- The status of the last substitution in the running command. -/
  substituted : Option Nat := none
  /-- What function calls have to put back when they are over. -/
  locals : List (List (Bytes × Option Variable)) := []
deriving Inhabited

namespace State

/-! ### Variables -/

/-- The variable of a name. -/
def binding? (s : State) (name : Bytes) : Option Variable :=
  (s.bindings.find? (·.1 == name)).map (·.2)

/-- The value of a variable. -/
def value? (s : State) (name : Bytes) : Option Bytes := (s.binding? name).bind (·.value)

/-- The state with a variable put in. -/
def putVariable (s : State) (name : Bytes) (v : Variable) : State :=
  { s with bindings :=
      if (s.binding? name).isSome then
        s.bindings.map fun (n, old) => if n == name then (n, v) else (n, old)
      else s.bindings ++ [(name, v)] }

/-- The state without a variable. -/
def dropVariable (s : State) (name : Bytes) : State :=
  { s with bindings := s.bindings.filter (·.1 != name) }

/-- The state with a value assigned. -/
def assign (s : State) (name value : Bytes) : State :=
  let old := (s.binding? name).getD { value := none }
  s.putVariable name
    { old with value := some value, exported := old.exported || s.options.exportAll }

/-- Whether a variable cannot be assigned. -/
def isFixed (s : State) (name : Bytes) : Bool := (s.binding? name).any (·.fixed)

/-- The state with a value assigned to a variable that commands are given. -/
def handOn (s : State) (name value : Bytes) : State :=
  let old := (s.binding? name).getD { value := none }
  s.putVariable name { old with value := some value, exported := true }

/-- How many groups the variables are kept in. -/
def groups : Nat := 39

/-- The group of a name: sixteen times its first byte and all its bytes, as far as there are
groups. -/
def groupOf (name : Bytes) : Nat :=
  name.foldl (fun n c => n + c.toNat) (16 * (name.headD 0).toNat) % groups

/-- The environment that commands are given: group by group, and in a group in the order in which
the variables were made. -/
def environment (s : State) : List Bytes :=
  (List.range groups).flatMap fun group =>
    s.bindings.filterMap fun (name, v) =>
      if v.exported && groupOf name == group then v.value.map (Environment.join name) else none

/-- The bytes that separate fields. -/
def separators (s : State) : Bytes := (s.value? (raw "IFS")).getD (raw " \t\n")

/-! ### Parameters -/

/-- The options in one letter each. -/
def optionLetters (s : State) : Bytes :=
  (if s.options.exitOnError then raw "e" else []) ++
    (if s.options.noPatterns then raw "f" else []) ++
    (if s.options.trace then raw "x" else []) ++ (if s.options.failOnUnset then raw "u" else [])

/-- The value of a parameter other than `*` and `@`. -/
def parameter? (s : State) (name : Bytes) : Option Bytes :=
  match name with
  | [0x3F] => some (digits s.status)
  | [0x24] => some (digits s.pid)
  | [0x23] => some (digits s.params.length)
  | [0x21] => s.lastJob.map digits
  | [0x2D] => some s.optionLetters
  | c :: _ =>
    if isDigit c then
      match decimal name with
      | 0 => some s.name
      | n + 1 => s.params[n]?
    else s.value? name
  | [] => none

/-- The variables that a shell has from the start, unless the environment has others. -/
def startVariables : List (String × String) := [
  ("PATH", "/usr/local/sbin:/usr/local/bin:/usr/sbin:/usr/bin:/sbin:/bin"), ("PS1", "# "),
  ("PS2", "> "), ("PS4", "+ ")]

/-- The state of a shell that a process with an environment begins as. -/
def initial (name : Bytes) (pid parent : Pid) (envv : List Bytes) : State :=
  let s : State := { name, pid }
  let s := startVariables.foldl (fun s (n, v) => s.assign (raw n) (raw v)) s
  let s := envv.foldl (fun s entry =>
    match Environment.split entry with
    | some (n, v) => if isName n then s.handOn n v else s
    | none => s) s
  let s := s.assign (raw "IFS") (raw " \t\n")
  let s := s.assign (raw "OPTIND") (raw "1")
  s.assign (raw "PPID") (digits parent)

/-- The state of a shell that stands at a place. -/
def standingAt (s : State) (place : Bytes) : State := { s.handOn (raw "PWD") place with place }

end State

/-! ### Messages -/

/-- Writes all of some data, as far as it is taken. -/
def writeAll (fd : Fd) (data : Bytes) : Program Bool :=
  Program.iterate data fun data =>
    match data with
    | [] => return .inr true
    | data => do
      match ← Program.request (.write fd data) with
      | .ok n => return .inl (data.drop n)
      | .error reason => if reason == .EINTR then return .inl data else return .inr false

/-- Writes a message about a line. -/
def complain (s : State) (message : Bytes) : Program Unit := do
  let during := match s.running with
    | some name => name ++ raw ": "
    | none => []
  let _ ← writeAll 2 (s.name ++ raw ": " ++ digits s.line ++ raw ": " ++ during ++ message ++ [10])

/-- Writes a message and ends the shell. -/
def giveUp (s : State) (message : Bytes) : Program State := do
  complain s message
  return { s with status := 2, flow := .ending }

end Coprocess.Shell
