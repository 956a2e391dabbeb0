import Coprocess.Shell.Builtin

/-!
# Looking programs up

How a name becomes a program.  A name with a separator is a path; any other is looked for in the
directories of the search path.  A file without a header is run by a shell of its own unless it is
no text.
-/

namespace Coprocess.Shell

open Host Tools

/-- The directories that programs are looked for in. -/
def searchPlaces (s : State) : List Bytes :=
  ((s.value? (raw "PATH")).map (Bytes.splitOn 0x3A)).getD []

/-- The path of a name in a directory. -/
def within (directory name : Bytes) : Bytes :=
  if directory.isEmpty then name else directory ++ 0x2F :: name

/-- The first place that has a program of a name, or why none has. -/
def findProgram (name : Bytes) (reason : Errno) : List Bytes → Program (Except Errno Bytes)
  | [] => return .error reason
  | directory :: rest => do
    let path := within directory name
    match ← Program.request (.fileInfo path true) with
    | .error e => findProgram name (if e == .ENOENT || e == .ENOTDIR then reason else e) rest
    | .ok info =>
      if info.kind != .regular then findProgram name .EACCES rest
      else if (← Program.request (.mayAccess path 1)).isOk then return .ok path
      -- It is there but cannot be run, which is what is said if no other turns up.
      else findProgram name .EACCES rest

/-- The status for a program that cannot be run, and what is said of it. -/
def unrunnable (name : Bytes) (reason : Errno) : Nat × Bytes :=
  let absent := reason == .ENOENT || reason == .ENOTDIR
  let status := if absent || reason == .ELOOP || reason == .ENAMETOOLONG then 127 else 126
  (status, name ++ raw (": " ++ if absent then "not found" else reason.wording))

/-- Whether a file looks as if it were no text: it has a zero byte on its first line, or the mark of
a program image. -/
def isBinary (path : Bytes) : Program Bool := do
  match ← Program.request (.openFile path { read := true, cloexec := true }) with
  | .error _ => return false
  | .ok fd =>
    let start ← Program.request (.read fd 4096)
    let _ ← Program.request (.close fd)
    match start with
    | .error _ => return false
    | .ok text =>
      return (text.takeWhile (· != 10)).contains 0 || Bytes.beginsWith text (raw "\x7fELF")

/-- Takes on the image of a program, or has a shell run it as a script; yields why that failed. -/
def become (path : Bytes) (argv envv : List Bytes) : Program Errno := do
  let reason ← Program.request (.execute path argv envv)
  if reason == .ENOEXEC && !(← isBinary path) then
    Program.request (.execute (raw "/bin/sh") (raw "/bin/sh" :: path :: argv.drop 1) envv)
  else return reason

/-- Becomes a program that is looked for, or ends with what is wrong. -/
def becomeNamed (s : State) (argv envv : List Bytes) : Program Unit := do
  let name := argv.headD []
  let reason ← if name.contains 0x2F then become name argv envv
    else do
      match ← findProgram name .ENOENT (searchPlaces s) with
      | .ok path => become path argv envv
      | .error reason => pure reason
  let (status, message) := unrunnable name reason
  complain s message
  Program.exit status

end Coprocess.Shell
