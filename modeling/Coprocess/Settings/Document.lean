import Coprocess.Settings
import Coprocess.Toml.Document

/-!
# Settings layers as documents

How a settings document is read as a layer.  The document's top level and its `exec` table are
records whose fields may each be missing; names that are no fields are ignored.  The `exec` record
may also be given as an array that holds its fields in order, all of them.  A level is given by its
name, or by a table with that name alone and nothing under it.  A date stands where a record is
expected for a record without any of the fields.
-/

namespace Coprocess.Layer

open Toml

/-- Reads a level. -/
def levelOf : Value → Option LogLevel
  | .string s => LogLevel.ofName? s
  | .table [(name, .table [])] => LogLevel.ofName? name
  | .table [(name, .array [])] => LogLevel.ofName? name
  | _ => none

/-- Reads a text. -/
def textOf : Value → Option String
  | .string s => some s
  | _ => none

/-- Reads a field that may be missing. -/
def optional {α : Type} (read : Value → Option α) (name : String)
    (entries : List (String × Value)) :
    Option (Option α) :=
  match Value.find? name entries with
  | some v => (read v).map some
  | none => some none

/-- Reads the resolver's record. -/
def execOf : Value → Option ExecLayer
  | .table entries => do
    let shell ← optional textOf "shell" entries
    return { shell := shell.map Bytes.ofText, rootPath := ← optional textOf "root_path" entries
             userPath := ← optional textOf "user_path" entries }
  | .array (shell :: rootPath :: userPath :: _) => do
    return { shell := some (Bytes.ofText (← textOf shell)), rootPath := some (← textOf rootPath)
             userPath := some (← textOf userPath) }
  | .datetime => some {}
  | _ => none

/-- The layer a document's entries describe. -/
def ofEntries (entries : List (String × Value)) : Option Layer := do
  return { level := ← optional levelOf "log_level" entries
           exec := ← optional execOf "exec" entries }

/-- The layer a text describes, if it is a document and its fields are of the right form. -/
def ofText (text : String) : Option Layer := do ofEntries (← parse text)

end Coprocess.Layer
