import Coprocess.Error

/-!
# Commands

A command is either a line for the shell or a program with its arguments, and the characters of the
command decide which: a line that holds a meta character goes to the shell and must come without
arguments, any other names a program and must come with them.  `Command.classify` enforces this
contract and says how the command will be resolved.
-/

namespace Coprocess

/-- What to run: a shell line or the name of a program, the arguments handed to the program
(its own name first) and the environment it gets (`none` passes the caller's on). -/
structure Command where
  line : String
  argv : Option (List String) := none
  envv : Option (List String) := none
deriving DecidableEq, Repr

namespace Command

/-- A shell line. -/
def shell (line : String) : Command := { line }

/-- A program name or path with its full argument list. -/
def program (name : String) (argv : List String) : Command := { line := name, argv := some argv }

/-- The same command with exactly these `NAME=value` entries as its environment. -/
def withEnv (c : Command) (envv : List String) : Command := { c with envv := some envv }

/-- The characters that send a command to the shell. -/
def metaCharacters : List Char :=
  ['|', '&', ';', '(', ')', '<', '>', '[', ']', '\x7b', '\x7d', '$', '\x60', '\x27', '~', '\x22',
   '\\',
    '*', '?', ' ', '\t', '\r', '\n']

/-- Whether some character of `line` is a meta character. -/
def hasMeta (line : String) : Bool := line.toList.any metaCharacters.contains

/-- How a command is resolved to a program image. -/
inductive Kind where
  /-- The shell runs the line. -/
  | shell
  /-- The command is a path and is executed as it stands. -/
  | path
  /-- The command is a name and is looked up along the search path. -/
  | bare
deriving DecidableEq, Repr

namespace Kind

/-- Whether commands of this kind hold meta characters. -/
def hasMeta (k : Kind) : Bool := k == .shell

/-- The name that log records give the kind. -/
def name : Kind → String
  | shell => "Shell"
  | path => "Path"
  | bare => "Bare"

end Kind

/-- Whether a zero byte occurs in a text. -/
def textHasNul (s : String) : Bool := s.toList.contains '\x00'

/-- Whether a zero byte occurs anywhere in the command, its arguments or its environment. -/
def hasNul (c : Command) : Bool :=
  textHasNul c.line || (c.argv.getD []).any textHasNul || (c.envv.getD []).any textHasNul

/-- Checks the contract, in the order emptiness, zero bytes, agreement of line and arguments, and
says how the command is resolved. -/
def classify (c : Command) : Except Rejection Kind :=
  if c.line.isEmpty then .error .emptyCommand
  else if c.hasNul then .error .nulByte
  else match hasMeta c.line, c.argv with
    | true, some _ => .error .argvWithShellLine
    | true, none => .ok .shell
    | false, none => .error .missingArgv
    | false, some [] => .error .emptyArgv
    | false, some (_ :: _) => .ok (if c.line.toList.contains '/' then .path else .bare)

end Command

end Coprocess
