import Coprocess.Environment
import Coprocess.FileAccess
import Coprocess.Settings.Document

/-!
# Loading settings

Where the texts of the settings layers come from.  The global file may be missing, and one that
cannot be read or is no text counts as missing; so does one that nothing says the place of.  A file
that is asked for has to be there.
-/

namespace Coprocess.Settings

open Host

/-- The path of the global file for a process with the given environment block, if there is one.
The list of users is asked only if the environment says too little. -/
def globalPath? (block : List Bytes) : Program (Option Bytes) := do
  match configDirectory (Environment.valueOf "XDG_CONFIG_HOME" block)
      (Environment.valueOf "HOME" block) with
  | some directory => return some (fileIn directory)
  | none => return (configDirectory none (← Program.request .homeDirectory)).map fileIn

/-- The text of the global file, if there is one. -/
def readGlobal (block : List Bytes) : Program (Option String) := do
  match ← globalPath? block with
  | none => return none
  | some path => return (← FileAccess.readText path).toOption

/-- The settings of a process with the given environment block, which was asked to use a file. -/
def load (block : List Bytes) (explicit : Option Bytes) :
    Program (Except SettingsError Settings) := do
  let global ← readGlobal block
  if global.all fun text => (Layer.ofText text).isSome then
    match explicit with
    | none => return assemble Layer.ofText global none
    | some path => return assemble Layer.ofText global (some (← FileAccess.readText path))
  -- The file asked for is not even looked at.
  else return .error .malformed

end Coprocess.Settings
