import Coprocess.Host.Machine
import Coprocess.Shell.Start
import Coprocess.Tools.System

/-!
# The programs of a machine

Every program that a machine knows by name: the shell and the tools.
-/

namespace Coprocess.Tools

open Host

/-- The name of the shell. -/
def shellName : String := "sh"

/-- The names of all programs. -/
def programNames : List String := shellName :: table.map (·.1)

/-- What the programs do. -/
def images : Images := fun name argv envv =>
  if name == shellName then Shell.main argv envv
  else match (table.find? (·.1 == name)).map (·.2) with
    | some tool => do Program.exit (← tool argv envv)
    | none => Program.exit 127

end Coprocess.Tools
