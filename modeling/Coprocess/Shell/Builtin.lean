import Coprocess.Shell.Expansion
import Coprocess.Tools.Condition
import Coprocess.Tools.Printing
import Coprocess.Tools.Signals

/-!
# Builtins

The commands that a shell carries out itself and that run no other commands.  Each takes the state
and its arguments, and yields the state afterwards, with its status in it.  Here are those that
print, test or direct the flow of commands; the others stand with what they are about.
-/

namespace Coprocess.Shell

open Host Tools

/-- A command that the shell carries out itself. -/
abbrev Builtin := State → List Bytes → Program State

namespace Builtin

/-- The state after a command with a status. -/
def ends (s : State) (status : Nat) : State := { s with status }

/-- Complains, and ends with a status. -/
def refuses (s : State) (status : Nat) (message : Bytes) : Program State := do
  complain s message
  return ends s status

/-- Writes to the standard output. -/
def prints (s : State) (text : Bytes) : Program State := do
  if ← writeAll 1 text then return ends s 0
  else refuses s 1 ((s.running.map (· ++ raw ": ")).getD [] ++ raw "I/O error")

/-! ### Text and conditions -/

/-- Does nothing. -/
def nothing : Builtin := fun s _ => return ends s 0

/-- Does nothing, and fails. -/
def fails : Builtin := fun s _ => return ends s 1

/-- Prints its arguments. -/
def echo : Builtin := fun s args => prints s (echoBuiltin args)

/-- Prints by a format. -/
def printf : Builtin := fun s args =>
  match (if args.head? == some (raw "--") then args.drop 1 else args) with
  | [] => refuses s 2 (raw "usage: printf format [arg ...]")
  | format :: args => do
    let (out, faults) := printed false format args
    let isDirective (fault : Bytes) : Bool := fault.head? == some 0x25
    let rec tell : List Bytes → Program Unit
      | [] => return ()
      | fault :: rest => do
        complain s (fault ++
          raw (if isDirective fault then ": invalid directive" else ": expected numeric value"))
        tell rest
    tell faults
    let s ← prints s out
    return if faults.any isDirective then ends s 2 else if faults.isEmpty then s else ends s 1

/-- Says whether a condition holds. -/
def test : Builtin := fun s args => do
  match ← condition args with
  | .ok v => return ends s (if v then 0 else 1)
  | .error reason => refuses s 2 reason

/-- The same, with a closing bracket behind the condition. -/
def bracket : Builtin := fun s args =>
  if args.getLast? == some (raw "]") then test s args.dropLast else refuses s 2 (raw "missing ]")

/-! ### Flow -/

/-- The count that an argument gives. -/
def countOf (args : List Bytes) (default : Nat) : Except Bytes Nat :=
  match args with
  | [] => .ok default
  | arg :: _ =>
    if !arg.isEmpty && arg.all isDigit then .ok (decimal arg)
    else .error (raw "Illegal number: " ++ arg)

/-- Ends the shell. -/
def exit : Builtin := fun s args =>
  match countOf args s.status with
  | .ok n => return { s with status := n % 256, flow := .ending }
  | .error reason => giveUp s reason

/-- Leaves a function or script. -/
def goBack : Builtin := fun s args =>
  match countOf args s.status with
  | .ok n => return { s with status := n, flow := .back }
  | .error reason => giveUp s reason

/-- Leaves loops. -/
def leave : Builtin := fun s args =>
  match countOf args 1 with
  | .ok n =>
    let n := min n s.loops
    return { s with status := 0, flow := if n == 0 then .next else .leave n }
  | .error reason => giveUp s reason

/-- Goes on with a loop. -/
def again : Builtin := fun s args =>
  match countOf args 1 with
  | .ok n =>
    let n := min n s.loops
    return { s with status := 0, flow := if n == 0 then .next else .again n }
  | .error reason => giveUp s reason

end Builtin

end Coprocess.Shell
