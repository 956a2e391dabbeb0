import Coprocess.FileAccess
import Coprocess.Settings

/-!
# Scratch files

Files that are made for a trial: a layout of files, directories and links in the directory one
stands in, and directories with scripts that are removed when they are no longer needed.

A script has no header line, so that the system does not know what runs it.
-/

namespace Coprocess.Scratch

open Host

/-! ### Layouts -/

/-- A file to be made. -/
inductive Entry where
  | file (path content : Bytes) (permissions : Nat)
  | directory (path : Bytes)
  | link (path target : Bytes)
deriving Repr

/-- Makes a file, with the directories it lies in. -/
def Entry.make : Entry → Program (Except SystemError Unit)
  | .file path content permissions => do
    match ← FileAccess.makeDirectories ((FileAccess.parent? path).getD []) with
    | .ok () => FileAccess.writeAs path content permissions
    | .error reason => return .error reason
  | .directory path => FileAccess.makeDirectories path
  | .link path target => FileAccess.named path (Program.request (.makeLink target path))

/-- Makes files in order. -/
def layOut : List Entry → Program Unit
  | [] => return ()
  | e :: rest => do
    let _ ← e.make
    layOut rest

/-! ### Script directories -/

/-- Where directories for scripts are made unless a place is given. -/
def defaultPlace : Bytes := Bytes.ofText "/tmp"

/-- The names tried for a new directory, by number. -/
def candidateName (n : Nat) : String := ".tmp" ++ toString n

/-- Makes a directory that nobody else has, and yields its path. -/
def freshDirectory (place : Bytes) : Program (Except SystemError Bytes) :=
  Program.iterate 0 fun n => do
    let path := Settings.joinPath place (candidateName n)
    match ← FileAccess.named path (Program.request (.makeDirectory path 0o700)) with
    | .ok () => return .inr (.ok path)
    | .error reason =>
      if reason == .os .EEXIST then return .inl (n + 1) else return .inr (.error reason)

/-- A script: its name, what is in it, and whether it may be executed. -/
structure Script where
  name : String
  body : String
  executable : Bool
deriving Repr

/-- Only the owner of a script may use it. -/
def Script.permissions (s : Script) : Nat := if s.executable then 0o700 else 0o600

/-- Writes a script into a directory, and yields its path. -/
def Script.write (s : Script) (directory : Bytes) : Program (Except SystemError Bytes) := do
  let path := Settings.joinPath directory s.name
  match ← FileAccess.writeAs path (Bytes.ofText s.body) s.permissions with
  | .ok () => return .ok path
  | .error reason => return .error reason

/-- Removes files from a directory. -/
def removeEach (directory : Bytes) : List Bytes → Program Unit
  | [] => return ()
  | name :: rest => do
    let _ ← Program.request (.removeFile (directory ++ FileAccess.separator :: name))
    removeEach directory rest

/-- Removes a directory with the files in it. -/
def removeDirectory (directory : Bytes) : Program Unit := do
  if let .ok names ← Program.request (.listDirectory directory) then removeEach directory names
  let _ ← Program.request (.removeDirectory directory)

/-! ### A look at scripts -/

/-- A file as it is found. -/
structure Found where
  path : Bytes
  permissions : Nat
  content : Bytes
deriving Repr

/-- What was found of a directory of scripts. -/
structure Survey where
  /-- Each script right after it was written. -/
  written : List Found := []
  /-- The names in the directory, in the order of their bytes. -/
  names : List Bytes := []
  /-- Whether the directory is gone in the end. -/
  removed : Bool
deriving Repr

/-- Writes scripts into a directory and looks at each right after. -/
def writeEach (directory : Bytes) (found : List Found) : List Script → Program (Option (List Found))
  | [] => return some found.reverse
  | s :: rest => do
    match ← s.write directory with
    | .error _ => return none
    | .ok path =>
      match ← FileAccess.read path, ← Program.request (.fileInfo path true) with
      | .ok content, .ok info =>
        writeEach directory
          (⟨path.drop (directory.length + 1), info.permissions, content⟩ :: found) rest
      | _, _ => return none

/-- Makes a directory for scripts, writes them, looks at what is there, and removes it all; `none`
if something cannot be made. -/
def survey (place : Bytes) (scripts : List Script) : Program (Option Survey) := do
  match ← freshDirectory place with
  | .error _ => return none
  | .ok directory =>
    match ← writeEach directory [] scripts, ← Program.request (.listDirectory directory) with
    | some written, .ok names =>
      removeDirectory directory
      let removed := !(← FileAccess.isDirectory directory)
      return some { written, names := names.mergeSort (fun a b => !(decide (b < a))), removed }
    | _, _ => return none

end Coprocess.Scratch
