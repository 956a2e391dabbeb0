import Coprocess.Error

/-!
# Settings

The engine is configured by a log level and by the settings of the command resolver.  They are
assembled from layers: a settings file sets some fields and leaves the rest open (`Layer`), and
`Layer.over` lays it over what lies below, field by field.  `Settings.assemble` puts the global
layer and then the one asked for over the defaults and checks the result, so that a relative shell
in a lower layer does no harm once a higher one replaces it.
-/

namespace Coprocess

/-- How much the engine logs. -/
inductive LogLevel where
  | off
  | warn
  | info
  | debug
  | trace
deriving DecidableEq, Repr, Inhabited

namespace LogLevel

/-- Every level, quietest first. -/
def all : List LogLevel := [off, warn, info, debug, trace]

/-- The level's name in settings files, on the command line and as a log filter. -/
def name : LogLevel → String
  | off => "off"
  | warn => "warn"
  | info => "info"
  | debug => "debug"
  | trace => "trace"

/-- The level as log records show it. -/
def title : LogLevel → String
  | off => "Off"
  | warn => "Warn"
  | info => "Info"
  | debug => "Debug"
  | trace => "Trace"

/-- The level of a given name. -/
def ofName? (s : String) : Option LogLevel := all.find? (·.name == s)

theorem ofName?_name (l : LogLevel) : ofName? l.name = some l := by cases l <;> decide

end LogLevel

/-- Settings of the command resolver. -/
structure ExecSettings where
  /-- The shell that runs shell lines and files without a header; an absolute path. -/
  shell : Bytes := Bytes.ofText "/bin/sh"
  /-- Where names are looked up when there is no search path and the caller is privileged. -/
  rootPath : String := "/bin:/usr/bin"
  /-- The same for everyone else; the empty first entry is the current directory. -/
  userPath : String := ":/bin:/usr/bin"
deriving DecidableEq, Repr, Inhabited

/-- Everything that can be configured. -/
structure Settings where
  level : LogLevel := .info
  exec : ExecSettings := {}
deriving DecidableEq, Repr, Inhabited

/-! ### Layers -/

/-- What one settings file says about the resolver. -/
structure ExecLayer where
  shell : Option Bytes := none
  rootPath : Option String := none
  userPath : Option String := none
deriving DecidableEq, Repr

/-- What one settings file says. -/
structure Layer where
  level : Option LogLevel := none
  exec : Option ExecLayer := none
deriving DecidableEq, Repr

/-- The layer's own value for each field it sets, the one below for each it leaves open. -/
def ExecLayer.over (layer : ExecLayer) (below : ExecSettings) : ExecSettings where
  shell := layer.shell.getD below.shell
  rootPath := layer.rootPath.getD below.rootPath
  userPath := layer.userPath.getD below.userPath

/-- The layer's own value for each field it sets, the one below for each it leaves open. -/
def Layer.over (layer : Layer) (below : Settings) : Settings where
  level := layer.level.getD below.level
  exec := (layer.exec.getD {}).over below.exec

/-! ### Assembly -/

namespace Settings

/-- Whether a path starts at the root. -/
def isAbsolute (path : Bytes) : Bool := path.head? == some 0x2F

/-- Accepts settings whose shell is given by an absolute path. -/
def validate (s : Settings) : Except SettingsError Settings :=
  if isAbsolute s.exec.shell then .ok s else .error (.relativeShell s.exec.shell)

theorem validate_eq_ok_iff {s t : Settings} :
    validate s = .ok t ↔ t = s ∧ isAbsolute s.exec.shell = true := by
  unfold validate
  cases isAbsolute s.exec.shell <;> simp [eq_comm]

/-- The settings that result from the texts of the global file, if there is one, and of the file
asked for, if one was: `decode` reads a text as a layer.  The global text is decoded before the
other is looked at, and the result is checked only after both are merged. -/
def assemble (decode : String → Option Layer) (global : Option String)
    (explicit : Option (Except SystemError String)) : Except SettingsError Settings := do
  let lay (text : String) (below : Settings) : Except SettingsError Settings :=
    match decode text with
    | some layer => .ok (layer.over below)
    | none => .error .malformed
  let base ← match global with
    | some text => lay text {}
    | none => .ok {}
  let merged ← match explicit with
    | some (.ok text) => lay text base
    | some (.error reason) => .error (.unreadable reason)
    | none => .ok base
  validate merged

/-! ### Where the global file is -/

/-- `dir/name`, without doubling a separator that `dir` ends in. -/
def joinPath (dir : Bytes) (name : String) : Bytes :=
  if dir.isEmpty || dir.getLast? == some 0x2F then dir ++ Bytes.ofText name
  else dir ++ 0x2F :: Bytes.ofText name

/-- The directory for configurations, if there is one: it may be given by an absolute path, and is
`.config` in the home directory otherwise.  An empty home directory is none. -/
def configDirectory (configHome home : Option Bytes) : Option Bytes :=
  configHome.filter isAbsolute <|> (home.filter (!·.isEmpty)).map (joinPath · ".config")

/-- The settings file in a directory for configurations. -/
def fileIn (directory : Bytes) : Bytes := joinPath (joinPath directory "coproc") "config.toml"

end Settings

end Coprocess
