import Coprocess.Transfer

/-!
# Files by their paths

Reading and writing whole files, and making directories together with those they lie in.  A path
that holds a zero byte names no file, and is refused before the system is asked.

A path is cut into its components to find the directory a file lies in; empty components and those
that mean the directory itself count only at the beginning of a relative path.
-/

namespace Coprocess.FileAccess

open Host

/-! ### Paths -/

/-- The byte between the components of a path. -/
def separator : UInt8 := 0x2F

/-- The components of a path that matter for what it lies in. -/
def components (path : Bytes) : List Bytes :=
  let matters := fun (name : Bytes) => !name.isEmpty && name != [0x2E]
  match Bytes.splitOn separator path with
  | [] => []
  | first :: rest => (if first.isEmpty then [] else [first]) ++ rest.filter matters

/-- The path of the given components. -/
def ofComponents (absolute : Bool) (names : List Bytes) : Bytes :=
  (if absolute then [separator] else []) ++ Bytes.joinWith separator names

/-- Whether a path begins at the root. -/
def isAbsolute (path : Bytes) : Bool := path.head? == some separator

/-- The directory that a path lies in; empty for the directory one stands in, and `none` if the path
lies nowhere. -/
def parent? (path : Bytes) : Option Bytes :=
  match components path with
  | [] => none
  | names => some (ofComponents (isAbsolute path) names.dropLast)

/-- The path and all that it lies in, innermost first, without the directory one stands in. -/
def ancestry (path : Bytes) : List Bytes :=
  let names := components path
  let outer :=
    (List.range names.length).reverse.map fun n => ofComponents (isAbsolute path) (names.take n)
  (path :: outer).filter (!·.isEmpty)

/-! ### Requests about paths -/

/-- Makes a request about a path, if it can name a file. -/
def named {α : Type} (path : Bytes) (request : Program (Except Errno α)) :
    Program (Except SystemError α) := do
  if Bytes.hasNul path then return .error .nulInPath
  else return (← request).mapError .os

/-- Whether a path leads to a directory. -/
def isDirectory (path : Bytes) : Program Bool := do
  match ← named path (Program.request (.fileInfo path true)) with
  | .ok info => return info.kind == .directory
  | .error _ => return false

/-- Whether a path leads to a regular file. -/
def isRegular (path : Bytes) : Program Bool := do
  match ← named path (Program.request (.fileInfo path true)) with
  | .ok info => return info.kind == .regular
  | .error _ => return false

/-! ### Directories -/

/-- Makes a directory. -/
def makeDirectory (path : Bytes) : Program (Except SystemError Unit) :=
  named path (Program.request (.makeDirectory path 0o777))

/-- Makes a directory unless there is one already. -/
def ensureDirectory (path : Bytes) : Program (Except SystemError Unit) := do
  match ← makeDirectory path with
  | .ok () => return .ok ()
  | .error reason =>
    if reason == .os .EEXIST && (← isDirectory path) then return .ok () else return .error reason

/-- Makes directories in order. -/
def ensureEach : List Bytes → Program (Except SystemError Unit)
  | [] => return .ok ()
  | path :: rest => do
    match ← ensureDirectory path with
    | .ok () => ensureEach rest
    | .error reason => return .error reason

/-- Makes the first of the given directories that lies in one that is there, and then those before
it, which lie in it. -/
def ensureFrom (inner : List Bytes) : List Bytes → Program (Except SystemError Unit)
  | [] => ensureEach inner
  | path :: outer => do
    match ← ensureDirectory path with
    | .ok () => ensureEach inner
    | .error reason =>
      if reason == .os .ENOENT then ensureFrom (path :: inner) outer else return .error reason

/-- Makes a directory and all that it lies in, as far as they are missing. -/
def makeDirectories (path : Bytes) : Program (Except SystemError Unit) :=
  ensureFrom [] (ancestry path)

/-! ### Whole files -/

/-- Opens a file; the descriptor ends with the image. -/
def openFile (path : Bytes) (mode : OpenMode) : Program (Except SystemError Fd) :=
  named path (Transfer.openFd path { mode with cloexec := true })

/-- The content of a file. -/
def read (path : Bytes) : Program (Except SystemError Bytes) := do
  match ← openFile path { read := true } with
  | .error reason => return .error reason
  | .ok fd =>
    let content ← Transfer.readAll (Transfer.readFd fd)
    let _ ← Program.request (.close fd)
    return content

/-- The content of a file that holds text. -/
def readText (path : Bytes) : Program (Except SystemError String) := do
  match ← read path with
  | .error reason => return .error reason
  | .ok content =>
    match content.text? with
    | some text => return .ok text
    | none => return .error .notText

/-- Replaces the content of a file, making the file if need be. -/
def write (path content : Bytes) : Program (Except SystemError Unit) := do
  match ← openFile path { write := true, create := true, truncate := true } with
  | .error reason => return .error reason
  | .ok fd =>
    let written ← Transfer.writeAll (Transfer.writeFd fd) content
    let _ ← Program.request (.close fd)
    return written

/-- Replaces the content of a file and then what its owner may do with it. -/
def writeAs (path content : Bytes) (permissions : Nat) : Program (Except SystemError Unit) := do
  match ← write path content with
  | .error reason => return .error reason
  | .ok () => named path (Program.request (.setPermissions path permissions))

end Coprocess.FileAccess
