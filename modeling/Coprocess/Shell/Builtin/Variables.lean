import Coprocess.Shell.Builtin

/-!
# Builtins for variables

Variables are handed on, fixed, made local to a function or forgotten, and parameters are dropped.
-/

namespace Coprocess.Shell

open Host Tools

namespace Builtin

/-- A value as it could be written down. -/
def written (value : Bytes) : Bytes :=
  raw "'" ++ value.flatMap (fun c => if c == 0x27 then raw "'\"'\"'" else [c]) ++ raw "'"

/-- The variables in order of their names. -/
def sorted (s : State) : List (Bytes × Variable) :=
  let names := (s.bindings.map (·.1)).foldr Expansion.insertName []
  names.filterMap fun n => (s.binding? n).map fun v => (n, v)

/-- Marks variables, assigning those that are given with a value. -/
def mark (s : State) (f : Variable → Variable) : List Bytes → Program State
  | [] => return ends s 0
  | arg :: rest => do
    let name := arg.takeWhile (· != 0x3D)
    let value := if name.length < arg.length then some (arg.drop (name.length + 1)) else none
    if !isName name then giveUp s (arg ++ raw ": bad variable name")
    else if value.isSome && s.isFixed name then giveUp s (name ++ raw ": is read only")
    else
      let old := (s.binding? name).getD { value := none }
      mark (s.putVariable name (f { old with value := value <|> old.value })) f rest

/-- Lists marked variables. -/
def list (s : State) (word : String) (test : Variable → Bool) : Program State :=
  prints s ((sorted s).flatMap fun (n, v) =>
    if test v then
      raw word ++ raw " " ++ n ++ (v.value.map fun x => raw "=" ++ written x).getD [] ++ [10]
    else [])

/-- Hands variables on to commands. -/
def exportVariables : Builtin := fun s args =>
  match args with
  | [] => list s "export" (·.exported)
  | [dash] =>
    if dash == raw "-p" then list s "export" (·.exported)
    else mark s ({ · with exported := true }) args
  | args => mark s ({ · with exported := true }) args

/-- Fixes variables. -/
def fixVariables : Builtin := fun s args =>
  match args with
  | [] => list s "readonly" (·.fixed)
  | [dash] =>
    if dash == raw "-p" then list s "readonly" (·.fixed) else mark s ({ · with fixed := true }) args
  | args => mark s ({ · with fixed := true }) args

/-- Makes variables local to the running function. -/
def localVariables (s : State) : List Bytes → Program State
  | [] => return ends s 0
  | arg :: rest => do
    let name := arg.takeWhile (· != 0x3D)
    match s.locals with
    | [] => giveUp s (raw "not in a function")
    | frame :: frames =>
      if !isName name then giveUp s (arg ++ raw ": bad variable name")
      else
        let s := { s with locals := ((name, s.binding? name) :: frame) :: frames }
        let s := if name.length < arg.length then s.assign name (arg.drop (name.length + 1)) else s
        localVariables s rest

/-- Forgets variables or functions. -/
def unset (s : State) (functions : Bool) : List Bytes → Program State
  | [] => return ends s 0
  | arg :: rest =>
    if arg == raw "-f" then unset s true rest
    else if arg == raw "-v" then unset s false rest
    else if functions then
      unset { s with functions := s.functions.filter (·.1 != arg) } functions rest
    else if !isName arg then giveUp s (arg ++ raw ": bad variable name")
    else if s.isFixed arg then giveUp s (arg ++ raw ": is read only")
    else unset (s.dropVariable arg) functions rest

/-- Drops parameters from the front. -/
def shift : Builtin := fun s args =>
  match countOf args 1 with
  | .error reason => giveUp s reason
  | .ok n =>
    if s.params.length < n then giveUp s (raw "can't shift that many")
    else return ends { s with params := s.params.drop n } 0

end Builtin

end Coprocess.Shell
