import Coprocess.Shell.Builtin.Options
import Coprocess.Shell.Builtin.Places
import Coprocess.Shell.Builtin.Processes
import Coprocess.Shell.Builtin.Reading

/-!
# The builtins by name

Every name under which the shell carries a command out itself, and which of them are special: a
failure of one of those ends a shell that nobody types to.
-/

namespace Coprocess.Shell

open Host Tools

namespace Builtin

/-- The builtins that run no other commands. -/
def table : List (String × Builtin) := [
  (":", nothing), ("true", nothing), ("false", fails), ("echo", echo), ("printf", printf),
  ("test", test), ("[", bracket), ("exit", exit), ("return", goBack), ("break", leave),
  ("continue", again), ("export", exportVariables), ("readonly", fixVariables),
  ("local", localVariables), ("unset", fun s => unset s false), ("shift", shift), ("set", set),
  ("cd", cd), ("chdir", cd), ("pwd", pwd), ("read", read), ("getopts", getopts), ("wait", wait),
  ("kill", kill), ("umask", umask),
  ("times", fun s _ => prints s (raw "0m0.00s 0m0.00s\n0m0.00s 0m0.00s\n")), ("hash", nothing),
  ("alias", nothing), ("unalias", nothing), ("jobs", nothing),
  ("ulimit", fun s _ => prints s (raw "unlimited\n"))]

/-- The builtins whose failures end the shell. -/
def special : List String :=
  [":", "break", "continue", ".", "eval", "exec", "exit", "export", "readonly", "return", "set",
   "shift", "times", "trap", "unset"]

end Builtin

end Coprocess.Shell
