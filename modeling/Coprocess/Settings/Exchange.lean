import Coprocess.Json
import Coprocess.Settings

/-!
# Settings in JSON

Settings are written as an object with one member per field, and read back from such an object, in
which other members do not matter, or from an array of the fields in order.  A level is written by
its name and may also be read from an object whose only member has that name and the value `null`.
A layer is read in the same shapes, except that its object may leave members out or set them to
`null`.
-/

namespace Coprocess

/-! ### Writing -/

namespace LogLevel

/-- The level's name as JSON. -/
def toJson (l : LogLevel) : Json := .string l.name

/-- Reads a level. -/
def ofJson? : Json → Option LogLevel
  | .string s => ofName? s
  | .object [(name, .null)] => ofName? name
  | _ => none

end LogLevel

namespace ExecSettings

/-- The resolver's settings as JSON; `none` if the shell is not text. -/
def toJson? (s : ExecSettings) : Option Json := do
  let shell ← s.shell.text?
  return .object [("shell", .string shell), ("root_path", .string s.rootPath),
    ("user_path", .string s.userPath)]

end ExecSettings

namespace Settings

/-- Settings as JSON; `none` if the shell is not text. -/
def toJson? (s : Settings) : Option Json := do
  return .object [("log_level", s.level.toJson), ("exec", ← s.exec.toJson?)]

end Settings

/-! ### Reading settings -/

/-- Reads a text. -/
def Json.text? : Json → Option String
  | .string s => some s
  | _ => none

namespace ExecSettings

/-- Reads the resolver's settings from the values of their fields. -/
def ofFields? (shell rootPath userPath : Json) : Option ExecSettings := do
  let shell ← shell.text?
  return { shell := Bytes.ofText shell, rootPath := ← rootPath.text?, userPath := ← userPath.text? }

/-- Reads the resolver's settings. -/
def ofJson? : Json → Option ExecSettings
  | .object members => do
    ofFields? (← Json.member? "shell" members) (← Json.member? "root_path" members)
      (← Json.member? "user_path" members)
  | .array [shell, rootPath, userPath] => ofFields? shell rootPath userPath
  | _ => none

end ExecSettings

namespace Settings

/-- Reads settings from the values of their fields. -/
def ofFields? (level exec : Json) : Option Settings := do
  return { level := ← LogLevel.ofJson? level, exec := ← ExecSettings.ofJson? exec }

/-- Reads settings. -/
def ofJson? : Json → Option Settings
  | .object members => do
    ofFields? (← Json.member? "log_level" members) (← Json.member? "exec" members)
  | .array [level, exec] => ofFields? level exec
  | _ => none

end Settings

/-! ### Reading layers -/

/-- Reads a field that may be `null` or missing. -/
def Json.optional {α : Type} (read : Json → Option α) : Option Json → Option (Option α)
  | none => some none
  | some .null => some none
  | some v => (read v).map some

namespace ExecLayer

/-- Reads the resolver's layer from the values of its fields. -/
def ofFields? (shell rootPath userPath : Option Json) : Option ExecLayer := do
  let shell ← Json.optional Json.text? shell
  return { shell := shell.map Bytes.ofText, rootPath := ← Json.optional Json.text? rootPath
           userPath := ← Json.optional Json.text? userPath }

/-- Reads the resolver's layer. -/
def ofJson? : Json → Option ExecLayer
  | .object members =>
    ofFields? (Json.member? "shell" members) (Json.member? "root_path" members)
      (Json.member? "user_path" members)
  | .array [shell, rootPath, userPath] => ofFields? (some shell) (some rootPath) (some userPath)
  | _ => none

end ExecLayer

namespace Layer

/-- Reads a layer from the values of its fields. -/
def ofFields? (level exec : Option Json) : Option Layer := do
  return { level := ← Json.optional LogLevel.ofJson? level
           exec := ← Json.optional ExecLayer.ofJson? exec }

/-- Reads a layer. -/
def ofJson? : Json → Option Layer
  | .object members => ofFields? (Json.member? "log_level" members) (Json.member? "exec" members)
  | .array [level, exec] => ofFields? (some level) (some exec)
  | _ => none

end Layer

/-! ### Settings that agree -/

namespace Settings

/-- The parts of a path, up to empty parts, `.` parts and a separator at the end: two absolute paths
with the same parts name the same file. -/
def pathParts (path : Bytes) : Bool × List Bytes :=
  let parts := (Bytes.splitOn 0x2F path).filter (!·.isEmpty)
  let inner := fun (parts : List Bytes) => parts.filter (· != [0x2E])
  match isAbsolute path, parts with
  | true, parts => (true, inner parts)
  | false, [] => (false, [])
  | false, first :: rest => (false, first :: inner rest)

/-- Whether two settings agree, their shells being compared as paths. -/
def agrees (s t : Settings) : Bool :=
  s.level == t.level && pathParts s.exec.shell == pathParts t.exec.shell &&
    s.exec.rootPath == t.exec.rootPath && s.exec.userPath == t.exec.userPath

end Settings

end Coprocess
