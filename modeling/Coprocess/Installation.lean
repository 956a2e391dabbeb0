import Coprocess.FrontEnd
import Coprocess.Host.Setup
import Coprocess.Tools.Images

/-!
# An installed machine

A fresh machine with all its programs: the shell, the tools and the front end.  The front end is not
on the usual search path.
-/

namespace Coprocess.Installation

open Host

/-- The name of the front end. -/
def frontEndName : String := "coproc"

/-- The directory of the front end. -/
def frontEndDirectory : String := "/opt/coproc"

/-- The path of the front end. -/
def frontEndPath : Bytes := Bytes.ofText (frontEndDirectory ++ "/" ++ frontEndName)

/-- What the programs do. -/
def images : Images := fun name argv envv =>
  if name == frontEndName then do Program.exit (← FrontEnd.main argv envv)
  else Tools.images name argv envv

/-- The machine before anything runs on it, in an environment. -/
def world (envv : List Bytes) : World :=
  let w := freshWorld Tools.programNames envv
  let (files, directory) := w.files.grow Files.root (pathParts frontEndDirectory)
  { w with files := files.place directory frontEndName (.program frontEndName) 0o755 }

/-- Runs a program as the first process of the machine: what comes of it, and the machine
afterwards.  There is no result if the program never ends. -/
def perform {α : Type} (envv : List Bytes) (p : Program α) : Option (α × World) :=
  (world envv).runFirst images p

/-- The names of the terminals that a machine has made. -/
def terminalNames (w : World) : List String := (List.range w.terminals.size).map World.slavePath

end Coprocess.Installation

namespace Coprocess

/-- The path of the global settings file on the machine, for a process whose environment names the
given directories. -/
def Settings.globalPath (configHome home : Option Bytes) : Bytes :=
  fileIn ((configDirectory configHome home).getD (joinPath Host.World.homeOfUser ".config"))

end Coprocess
