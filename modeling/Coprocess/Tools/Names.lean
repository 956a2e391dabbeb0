import Coprocess.Shell.Expansion
import Coprocess.Tools.Tool

/-!
# Tools for files

The tools that list, make, move and remove files.
-/

namespace Coprocess.Tools

open Host Shell

/-- Names in order. -/
def inOrder (names : List Bytes) : List Bytes := names.foldr Expansion.insertName []

/-- Lists directories. -/
def ls : Tool := fun argv _ => do
  let (letters, inputs) := options (argv.drop 1)
  let hidden := letters.contains 0x61 || letters.contains 0x41
  let rec list (several : Bool) (status : Nat) (files directories : List Bytes) :
      List Bytes → Program (Nat × Bytes)
    | [] =>
      let groups :=
        if files.isEmpty then directories.reverse else files.reverse.flatten :: directories.reverse
      return (status, ([10] : Bytes).intercalate groups)
    | name :: rest => do
      match ← Program.request (.fileInfo name true) with
      | .error reason =>
        let _ ← Tool.complains argv (raw "cannot access '" ++ name ++ raw ("': " ++ reason.wording))
        list several 2 files directories rest
      | .ok info =>
        if info.kind == .directory && !letters.contains 0x64 then
          match ← Program.request (.listDirectory name) with
          | .error reason =>
            let _ ←
              Tool.complains argv (raw "cannot open directory '" ++ name ++
                raw ("': " ++ reason.wording))
            list several 2 files directories rest
          | .ok names =>
            let names := if letters.contains 0x61 then raw "." :: raw ".." :: names else names
            let shown := inOrder (names.filter fun n => hidden || n.head? != some 0x2E)
            let title := if several then name ++ raw ":\n" else []
            list several status files ((title ++ shown.flatMap (· ++ [10])) :: directories) rest
        else list several status ((name ++ [10]) :: files) directories rest
  let inputs := if inputs.isEmpty then [raw "."] else inOrder inputs
  let (status, text) ← list (1 < inputs.length) 0 [] [] inputs
  let printed ← Tool.prints argv text
  return max status printed

/-- Removes a file, or a directory with all that is in it; `depth` bounds how deep that goes. -/
def removeTree : Nat → Bytes → Program (Except Errno Unit)
  | 0, _ => return .error .ELOOP
  | depth + 1, path => do
    match ← Program.request (.fileInfo path false) with
    | .error reason => return .error reason
    | .ok info =>
      if info.kind != .directory then Program.request (.removeFile path)
      else
        match ← Program.request (.listDirectory path) with
        | .error reason => return .error reason
        | .ok names =>
          let rec removeEach : List Bytes → Program Unit
            | [] => return ()
            | name :: rest => do
              let _ ← removeTree depth (path ++ 0x2F :: name)
              removeEach rest
          removeEach names
          Program.request (.removeDirectory path)

/-- Removes files. -/
def rm : Tool := fun argv _ =>
  let (letters, names) := options (argv.drop 1)
  let force := letters.contains 0x66
  let deep := letters.contains 0x72 || letters.contains 0x52
  if names.isEmpty && !force then Tool.misused argv (raw "missing operand") 1
  else Tool.forEach argv "cannot remove" (fun name => do
    let done ← if deep then removeTree 1000 name else Program.request (.removeFile name)
    return match done with
      | .error reason => if force && reason == .ENOENT then .ok () else .error reason
      | .ok () => .ok ()) 0 names

/-- Makes a directory with those that it lies in. -/
def makeAll (before : Bytes) : List Bytes → Program (Except Errno Unit)
  | [] => return .ok ()
  | name :: rest => do
    let path := before ++ name
    match ← Program.request (.makeDirectory path 0o777) with
    | .ok () => makeAll (path ++ [0x2F]) rest
    | .error reason =>
      if reason == .EEXIST then makeAll (path ++ [0x2F]) rest else return .error reason

/-- Makes directories. -/
def mkdir : Tool := fun argv _ =>
  let (letters, names) := options (argv.drop 1)
  if names.isEmpty then Tool.misused argv (raw "missing operand") 1
  else Tool.forEach argv "cannot create directory" (fun name =>
    if letters.contains 0x70 then
      makeAll (if name.head? == some 0x2F then raw "/" else [])
        ((Bytes.splitOn 0x2F name).filter (!·.isEmpty))
    else Program.request (.makeDirectory name 0o777)) 0 names

/-- Removes empty directories. -/
def rmdir : Tool := fun argv _ =>
  Tool.forEach argv "failed to remove" (fun name => Program.request (.removeDirectory name)) 0
    (options (argv.drop 1)).2

/-- Makes files that are not there. -/
def touch : Tool := fun argv _ =>
  Tool.forEach argv "cannot touch" (fun name => do
    match ← Program.request (.openFile name { write := true, create := true }) with
    | .ok fd => Program.request (.close fd)
    | .error reason => return .error reason) 0 (options (argv.drop 1)).2

/-- The last component of a path. -/
def lastComponent (path : Bytes) : Bytes :=
  let trimmed := (path.reverse.dropWhile (· == 0x2F)).reverse
  if trimmed.isEmpty then (if path.isEmpty then [] else raw "/")
  else (trimmed.reverse.takeWhile (· != 0x2F)).reverse

/-- The path without its last component. -/
def directoryPart (path : Bytes) : Bytes :=
  let trimmed := (path.reverse.dropWhile (· == 0x2F))
  let front := (trimmed.dropWhile (· != 0x2F))
  let parent := (front.dropWhile (· == 0x2F)).reverse
  if !parent.isEmpty then parent
  else if path.head? == some 0x2F then raw "/" else raw "."

/-- Where something goes that is moved to a path. -/
def destination (source target : Bytes) : Program Bytes := do
  match ← Program.request (.fileInfo target true) with
  | .ok info =>
    if info.kind == .directory then return target ++ 0x2F :: lastComponent source else return target
  | .error _ => return target

/-- Copies a file. -/
def copyFile (source target : Bytes) : Program (Except Errno Unit) := do
  match ← Program.request (.openFile source { read := true }) with
  | .error reason => return .error reason
  | .ok input =>
    match ← Tool.readAll input with
    | .error reason => return .error reason
    | .ok data =>
      let permissions := match ← Program.request (.descriptorInfo input) with
        | .ok info => info.permissions
        | .error _ => 0o666
      let _ ← Program.request (.close input)
      match ← Program.request
        (.openFile target { write := true, create := true, truncate := true, permissions }) with
      | .error reason => return .error reason
      | .ok output =>
        let fine ← writeAll output data
        let _ ← Program.request (.close output)
        return if fine then .ok () else .error .EIO

/-- Makes a tool that takes sources and a target. -/
def toTarget (verb : String) (f : Bytes → Bytes → Program (Except Errno Unit)) :
    Tool := fun argv _ =>
  let (_, names) := options (argv.drop 1)
  match names.getLast? with
  | none => Tool.misused argv (raw "missing file operand") 1
  | some target =>
    if names.length == 1 then
      Tool.misused argv (raw "missing destination file operand after '" ++ target ++ raw "'") 1
    else
      Tool.forEach argv verb (fun source => do f source (← destination source target)) 0
        names.dropLast

/-- Copies files. -/
def cp : Tool := toTarget "cannot stat" copyFile

/-- Moves files. -/
def mv : Tool := toTarget "cannot stat" fun source target => Program.request (.rename source target)

/-- Makes symbolic links. -/
def ln : Tool :=
  toTarget "failed to create symbolic link" fun source target =>
    Program.request (.makeLink source target)

/-- Changes permissions, given in octal digits or as `+x` and `-x`. -/
def chmod : Tool := fun argv _ =>
  match (argv.drop 1) with
  | mode :: names =>
    Tool.forEach argv "cannot access" (fun name => do
      match ← Program.request (.fileInfo name true) with
      | .error reason => return .error reason
      | .ok info =>
        let bits :=
          (if mode.contains 0x78 then 0o111 else 0) |||
            (if mode.contains 0x77 then 0o222 else 0) |||
          (if mode.contains 0x72 then 0o444 else 0)
        let permissions := if mode.all isDigit then mode.foldl (fun n c => n * 8 + (c.toNat - 48)) 0
          else if mode.contains 0x2D then info.permissions - (info.permissions &&& bits)
          else info.permissions ||| bits
        Program.request (.setPermissions name permissions)) 0 names
  | [] => Tool.misused argv (raw "missing operand") 1

/-- Prints what a symbolic link leads to. -/
def readlink : Tool := fun argv _ => do
  match ← Program.request (.readLink ((argv.drop 1).getLast?.getD [])) with
  | .ok target => Tool.prints argv (target ++ [10])
  | .error _ => return 1

/-- Prints the directory that it stands at. -/
def printPlace :
    Tool := fun argv _ => do Tool.prints argv ((← Program.request .workingDirectory) ++ [10])

/-- Prints the last component of a path. -/
def basename : Tool := fun argv _ =>
  match argv.drop 1 with
  | [] => Tool.misused argv (raw "missing operand") 1
  | path :: rest =>
    let name := lastComponent path
    let ending := rest.headD []
    let cut :=
      if ending.isSuffixOf name && name != ending then name.take (name.length - ending.length)
      else name
    Tool.prints argv (cut ++ [10])

/-- Prints a path without its last component. -/
def dirname : Tool := fun argv _ =>
  match argv.drop 1 with
  | [] => Tool.misused argv (raw "missing operand") 1
  | paths => Tool.prints argv (paths.flatMap fun path => directoryPart path ++ [10])

end Coprocess.Tools
