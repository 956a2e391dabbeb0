import Coprocess.Shell.Builtin.Variables

/-!
# Traps

A trap has an action run when a signal has arrived, or when the shell ends.  A signal that was
ignored when the shell began stays ignored.
-/

namespace Coprocess.Shell

open Host Tools

/-- The conditions of a trap. -/
def trapConditions (s : State) (action : Option Bytes) : List Bytes → Program State
  | [] => return Builtin.ends s 0
  | name :: rest => do
    match signalOf name with
    | none => do
      let _ ← writeAll 2 (raw "trap: " ++ name ++ raw ": bad trap\n")
      return Builtin.ends s 1
    | some n =>
      let known := s.traps.any (·.1 == n)
      let traps := s.traps.filter (·.1 != n)
      if n == 0 then
        trapConditions { s with traps := match action with
          | some text => traps ++ [(n, text)]
          | none => traps } action rest
      else
        let disposition : Disposition := match action with
          | none => .default
          | some text => if text.isEmpty then .ignored else .caught
        let before ← Program.request (.setDisposition n disposition)
        let wasIgnored := match before with
          | .ok .ignored => !known
          | _ => false
        if wasIgnored then
          let _ ← Program.request (.setDisposition n .ignored)
          trapConditions s action rest
        else trapConditions { s with traps := match action with
          | some text => traps ++ [(n, text)]
          | none => traps } action rest

/-- Sets traps, or lists them. -/
def trap (s : State) (args : List Bytes) : Program State :=
  let args := if args.head? == some (raw "--") then args.drop 1 else args
  match args with
  | [] => Builtin.prints s (s.traps.flatMap fun (n, text) =>
      raw "trap -- " ++ Builtin.written text ++ raw (" " ++ signalName n ++ "\n"))
  | [name] => trapConditions s none [name]
  | action :: names =>
    if action == raw "-" then trapConditions s none names
    else if (signalOf action).isSome && action.all isDigit then trapConditions s none args
    else trapConditions s (some action) names

end Coprocess.Shell
