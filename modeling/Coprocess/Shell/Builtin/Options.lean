import Coprocess.Shell.Builtin.Variables

/-!
# Options of the shell

Options have letters, and most have names.  They are given to a shell when it starts, and set later
by `set`, which also sets the parameters.
-/

namespace Coprocess.Shell

open Host Tools

namespace Builtin

/-- Sets an option by its letter. -/
def setOption (o : Options) (on : Bool) (c : UInt8) : Option Options :=
  if c == 0x65 then some { o with exitOnError := on }
  else if c == 0x75 then some { o with failOnUnset := on }
  else if c == 0x66 then some { o with noPatterns := on }
  else if c == 0x6E then some { o with noExecution := on }
  else if c == 0x78 then some { o with trace := on }
  else if c == 0x61 then some { o with exportAll := on }
  else if c == 0x43 then some { o with noClobber := on }
  else if c == 0x76 then some { o with verbose := on }
  else if (raw "mbihIVEp").contains c then some o
  else none

/-- The letters of options that have names, in the order in which they are listed. -/
def optionNames : List (String × UInt8) := [
  ("errexit", 0x65), ("noglob", 0x66), ("ignoreeof", 0x49), ("interactive", 0x69),
  ("monitor", 0x6D), ("noexec", 0x6E), ("stdin", 0x73), ("xtrace", 0x78), ("verbose", 0x76),
  ("vi", 0x56), ("emacs", 0x45), ("noclobber", 0x43), ("allexport", 0x61), ("notify", 0x62),
  ("nounset", 0x75), ("privileged", 0x70), ("nolog", 0), ("debug", 0)]

/-- Whether an option is on. -/
def isOn (o : Options) (c : UInt8) : Bool :=
  if c == 0x65 then o.exitOnError
  else if c == 0x75 then o.failOnUnset
  else if c == 0x66 then o.noPatterns
  else if c == 0x6E then o.noExecution
  else if c == 0x78 then o.trace
  else if c == 0x61 then o.exportAll
  else if c == 0x43 then o.noClobber else c == 0x76 && o.verbose

/-- The options with their settings, for a reader or as commands. -/
def optionList (o : Options) (commands : Bool) : Bytes :=
  let line (name : String) (on : Bool) : Bytes :=
    if commands then raw ("set " ++ (if on then "-" else "+") ++ "o " ++ name ++ "\n")
    else fill true false 16 [] (raw name) ++ raw (if on then "on\n" else "off\n")
  (if commands then [] else raw "Current option settings\n") ++
    optionNames.flatMap fun (name, c) => line name (isOn o c)

/-- Reads options off the front of arguments; the rest are parameters if there are any. -/
def takeOptions (o : Options) : List Bytes → Except Bytes (Options × Option (List Bytes))
  | [] => .ok (o, none)
  | arg :: rest =>
    if arg == raw "--" then .ok (o, some rest)
    else if arg == raw "-" then .ok (o, if rest.isEmpty then none else some rest)
    else if arg == raw "+" then takeOptions o rest
    else match arg, rest with
      | sign :: [0x6F], name :: rest =>
        if sign == 0x2D || sign == 0x2B then
          let entry := optionNames.find? fun (n, _) => raw n == name
          match entry.bind fun (_, c) => setOption o (sign == 0x2D) c with
          | some o => takeOptions o rest
          | none => .error (raw "Illegal option -o " ++ name)
        else .ok (o, some (arg :: name :: rest))
      | sign :: c :: letters, rest =>
        if sign == 0x2D || sign == 0x2B then
          match (c :: letters).foldlM (fun o c => setOption o (sign == 0x2D) c) o with
          | some o => takeOptions o rest
          | none =>
            let wrong := ((c :: letters).find? fun c => (setOption o true c).isNone).toList
            .error (raw "Illegal option -" ++ wrong)
        else .ok (o, some (arg :: rest))
      | _, _ => .ok (o, some (arg :: rest))

/-- Sets options and parameters, or lists the variables. -/
def set : Builtin := fun s args =>
  match args with
  | [] =>
    prints s ((sorted s).flatMap fun (n, v) =>
      (v.value.map fun x => n ++ raw "=" ++ written x ++ [10]).getD [])
  | [only] =>
    if only == raw "-o" then prints s (optionList s.options false)
    else if only == raw "+o" then prints s (optionList s.options true)
    else setAll s [only]
  | args => setAll s args
where
  /-- Sets options and parameters. -/
  setAll (s : State) (args : List Bytes) : Program State :=
    match takeOptions s.options args with
    | .error reason => giveUp s reason
    | .ok (options, params) => return ends { s with options, params := params.getD s.params } 0

end Builtin

end Coprocess.Shell
