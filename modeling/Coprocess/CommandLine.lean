import Coprocess.Command
import Coprocess.Settings

/-!
# The command line

`coproc [OPTIONS] <COMMAND> [ARGS]...`.  Options may stand before or after the command; `--` ends
them.  From the first of `ARGS` on everything is taken as it stands, so that the arguments of the
program are never mistaken for options.  After the command an unknown option is already the first of
`ARGS`.

An option given without `=` takes the next argument as its value.  Values are checked only when the
next option or operand is taken up (`Draft.settle`), and this decides which of two mistakes is
reported: an argument that is no option at all is refused before the value that precedes it is
looked at.
-/

namespace Coprocess

/-- What the command line asks for. -/
structure Invocation where
  /-- Whether the command runs on a terminal instead of pipes. -/
  terminal : Bool := false
  config : Option Bytes := none
  logFile : Option Bytes := none
  level : Option LogLevel := none
  command : String
  args : List String := []
deriving DecidableEq, Repr

/-- Why the arguments are no invocation; help and version requests count as such. -/
inductive UsageError where
  | help
  | version
  | unknownArgument
  | invalidValue
  | conflict
  | missingRequired
  | notText
  | tooManyValues
deriving DecidableEq, Repr

/-- The exit code of a process that ends with this error. -/
def UsageError.exitCode : UsageError → Nat
  | help => 0
  | version => 0
  | _ => 2

namespace CommandLine

/-- The options that take a value. -/
inductive ValueOption where
  | config
  | logFile
  | level
deriving DecidableEq, Repr

/-- What an argument can be a value of. -/
inductive Target where
  | option (o : ValueOption)
  | command
  | args
deriving DecidableEq, Repr

/-- The names of options, without the leading hyphens. -/
def ValueOption.name : ValueOption → String
  | config => "config"
  | logFile => "log-file"
  | level => "log-level"

/-- The option of a given name. -/
def ValueOption.ofName? (name : String) : Option ValueOption :=
  [ValueOption.config, .logFile, .level].find? (·.name == name)

/-- What has been read of a command line. -/
structure Draft where
  terminal : Bool := false
  config : Option Bytes := none
  logFile : Option Bytes := none
  level : Option LogLevel := none
  command : Option String := none
  args : List String := []
  /-- What was read last and is not checked yet, last value first. -/
  pending : Option (Target × List Bytes) := none
  /-- The option whose value is to come. -/
  awaiting : Option ValueOption := none
  /-- Whether the command has come. -/
  pastCommand : Bool := false
  /-- Whether everything from here on is an operand. -/
  verbatim : Bool := false

namespace Draft

/-- Gives an option its value, once. -/
def setOption (d : Draft) (o : ValueOption) (v : Bytes) : Except UsageError Draft :=
  match o with
  | .config =>
    if d.config.isSome then .error .conflict
    else if v.isEmpty then .error .invalidValue
    else .ok { d with config := some v }
  | .logFile =>
    if d.logFile.isSome then .error .conflict
    else if v.isEmpty then .error .invalidValue
    else .ok { d with logFile := some v }
  | .level =>
    if d.level.isSome then .error .conflict
    else match v.text?.bind LogLevel.ofName? with
      | some l => .ok { d with level := some l }
      | none => .error .invalidValue

/-- Checks what was read last and takes it over. -/
def settle (d : Draft) : Except UsageError Draft :=
  let rest := { d with pending := none }
  match d.pending with
  | none => .ok rest
  | some (.option _, []) => .error .invalidValue
  | some (.option o, v :: _) => rest.setOption o v
  | some (.command, values) =>
    match values.mapM Bytes.text? with
    | some (command :: _) => .ok { rest with command := some command }
    | some [] => .ok rest
    | none => .error .notText
  | some (.args, values) =>
    match values.reverse.mapM Bytes.text? with
    | some args => .ok { rest with args := args }
    | none => .error .notText

/-- Takes an operand: the command, then its arguments. -/
def operand (d : Draft) (arg : Bytes) : Except UsageError Draft :=
  if !d.pastCommand then do
    let d ← d.settle
    return { d with pending := some (.command, [arg]), pastCommand := true }
  else match d.pending with
    | some (.args, values) =>
      .ok { d with pending := some (.args, arg :: values), verbatim := true }
    | _ => do
      let d ← d.settle
      return { d with pending := some (.args, [arg]), verbatim := true }

/-- Takes an argument that is no option: the value awaited, or an operand. -/
def plain (d : Draft) (arg : Bytes) : Except UsageError Draft :=
  match d.awaiting with
  | some o => .ok { d with pending := some (.option o, [arg]), awaiting := none }
  | none => d.operand arg

/-- Takes an option given by its long name, with what follows the equals sign. -/
def long (d : Draft) (arg : Bytes) (name : Bytes) (value : Option Bytes) :
    Except UsageError Draft :=
  match name.text? with
  | none => .error .unknownArgument
  | some name =>
    match ValueOption.ofName? name with
    | some o => do
      -- What came before is checked first, so that its mistakes are reported first.
      let d ← d.settle
      match value with
      | some v => d.setOption o v
      | none => return { d with pending := some (.option o, []), awaiting := some o }
    | none =>
      if name == "pty" || name == "help" || name == "version" then
        if value.isSome then .error .tooManyValues
        else do
          let d ← d.settle
          if name == "help" then .error .help
          else if name == "version" then .error .version
          else if d.terminal then .error .conflict
          else return { d with terminal := true }
      -- Past the command, an unknown option begins the arguments of the program.
      else if d.pastCommand then d.plain arg
      else .error .unknownArgument

/-- Takes an argument of the form of short options, given without its hyphen. -/
def short (d : Draft) (arg flags : Bytes) : Except UsageError Draft :=
  let known := fun b : UInt8 => b == 'h'.toUInt8 || b == 'V'.toUInt8
  if d.pastCommand && !flags.all known then d.plain arg
  else match flags.head? with
    | some b =>
      if !known b then .error .unknownArgument
      else do
        let _ ← d.settle
        .error (if b == 'h'.toUInt8 then .help else .version)
    | none => d.plain arg

/-- Takes one more argument. -/
def take (d : Draft) (arg : Bytes) : Except UsageError Draft :=
  if d.verbatim then d.operand arg
  else match arg with
    -- Two hyphens end the options and are no operand themselves.
    | [0x2D, 0x2D] => .ok { d with verbatim := true }
    | 0x2D :: 0x2D :: rest =>
      let name := rest.takeWhile (· != 0x3D)
      d.long arg name (if rest.contains 0x3D then some (rest.drop (name.length + 1)) else none)
    | 0x2D :: b :: rest => d.short arg (b :: rest)
    | _ => d.plain arg

/-- What was asked for, once all arguments are taken. -/
def finish (d : Draft) : Except UsageError Invocation := do
  let d ← d.settle
  match d.command with
  | some command =>
    return { terminal := d.terminal, config := d.config, logFile := d.logFile, level := d.level
             command, args := d.args }
  | none => .error .missingRequired

end Draft

/-- Reads the arguments of the process, its own name not among them. -/
def parse (args : List Bytes) : Except UsageError Invocation := do
  (← args.foldlM Draft.take {}).finish

/-! ### Help -/

/-- The version text. -/
def version : String := "coproc 0.1.0\n"

/-- The help text. -/
def help : String := String.intercalate "\n" [
  "Run a command as a coprocess over pipes or a pty",
  "",
  "Usage: coproc [OPTIONS] <COMMAND> [ARGS]...",
  "",
  "Arguments:",
  "  <COMMAND>  Program name, path, or a shell command line",
  "  [ARGS]...  Arguments for a program (not allowed with a shell command line)",
  "",
  "Options:",
  "      --pty                Attach the command to a new pseudo-terminal instead of pipes",
  "      --config <FILE>      Configuration file layered over the global one",
  "      --log-file <FILE>    Write JSON logs to this file instead of stderr",
  "      --log-level <LEVEL>  Override the configured log level [possible values: " ++
    String.intercalate ", " (LogLevel.all.map LogLevel.name) ++ "]",
  "  -h, --help               Print help",
  "  -V, --version            Print version",
  ""]

end CommandLine

/-! ### From invocation to command -/

namespace Invocation

/-- Why an invocation describes no command: a shell line was given arguments. -/
structure ArgumentsWithShellLine where
  line : String
deriving DecidableEq, Repr

/-- The wording of the refusal. -/
def ArgumentsWithShellLine.message (e : ArgumentsWithShellLine) : String :=
  "`" ++ e.line ++ "` is a shell command line; pass its arguments inside it"

/-- The command an invocation asks for; a program gets its own name as first argument. -/
def spec (i : Invocation) : Except ArgumentsWithShellLine Command :=
  if Command.hasMeta i.command then
    if i.args.isEmpty then .ok (Command.shell i.command) else .error ⟨i.command⟩
  else .ok (Command.program i.command (i.command :: i.args))

end Invocation

end Coprocess
