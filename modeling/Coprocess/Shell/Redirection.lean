import Coprocess.Shell.Builtin

/-!
# Redirections

A redirection binds a descriptor to a file, to another descriptor or to a here-document, or closes
it.  What the descriptor was bound to is put aside, so that it can be put back after the command.
-/

namespace Coprocess.Shell

open Host Tools

/-- The least number for descriptors that the shell keeps for itself. -/
def ownFd : Fd := 10

/-- A descriptor that was put aside, or one that was closed before. -/
abbrev Saved := Fd × Option Fd

/-- Puts descriptors back, the last one first. -/
def restore : List Saved → Program Unit
  | [] => return ()
  | (fd, kept) :: rest => do
    match kept with
    | some kept =>
      let _ ← Program.request (.duplicateOnto kept fd)
      let _ ← Program.request (.close kept)
    | none =>
      let _ ← Program.request (.close fd)
    restore rest

/-- How a file that cannot be opened is told of. -/
def cannot (verb : String) (path : Bytes) (absent : String) (reason : Errno) : Bytes :=
  let why := if reason == .ENOENT || reason == .ENOTDIR then absent else reason.wording
  raw ("cannot " ++ verb ++ " ") ++ path ++ raw (": " ++ why)

/-- Opens what a redirection leads to; `none` stands for a descriptor that is to be closed. -/
def openTarget (s : State) (kind : RedirectKind) (target : Bytes) :
    Program (Except Bytes (Option (Fd × Bool))) := do
  let opened (verb absent : String) (mode : OpenMode) :
      Program (Except Bytes (Option (Fd × Bool))) := do
    match ← Program.request (.openFile target mode) with
    | .ok fd => return .ok (some (fd, true))
    | .error reason => return .error (cannot verb target absent reason)
  match kind with
  | .input => opened "open" "No such file" { read := true }
  | .readWrite =>
    opened "create" "Directory nonexistent" { read := true, write := true, create := true }
  | .append =>
    opened "create" "Directory nonexistent" { write := true, create := true, append := true }
  | .output =>
    if s.options.noClobber then
      opened "create" "Directory nonexistent" { write := true, create := true, exclusive := true }
    else opened "create" "Directory nonexistent" { write := true, create := true, truncate := true }
  | .duplicate =>
    if target == raw "-" then return .ok none
    else if !target.isEmpty && target.all isDigit then return .ok (some (decimal target, false))
    else return .error (raw "Syntax error: Bad fd number")
  | .document _ => do
    match ← Program.request (.pipe false) with
    | .error reason => return .error (raw ("Pipe call failed: " ++ reason.wording))
    | .ok (readEnd, writeEnd) =>
      let feed : Program Unit := do
        let _ ← Program.request (.close readEnd)
        -- A process of its own writes, since the text may be longer than a pipe holds.
        let _ ← writeAll writeEnd target
        Program.exit 0
      .fork feed fun _ => do
        let _ ← Program.request (.close writeEnd)
        return .ok (some (readEnd, true))

/-- Binds what was opened to the descriptor of a redirection. -/
def bindTarget (fd : Fd) (opened : Option (Fd × Bool)) : Program (Except Bytes Unit) := do
  match opened with
  | none =>
    let _ ← Program.request (.close fd)
    return .ok ()
  | some (source, own) =>
    if source == fd then
      -- A descriptor that is given to itself outlives the image from now on.
      match ← Program.request (.setCloexec fd false) with
      | .ok () => return .ok ()
      | .error _ => return .error (digits source ++ raw ": Bad file descriptor")
    else
      match ← Program.request (.duplicateOnto source fd) with
      | .error reason => return .error (digits source ++ raw (": " ++ reason.wording))
      | .ok _ =>
        if own then
          let _ ← Program.request (.close source)
        return .ok ()

/-- Carries out redirections in order, putting aside what they replace, last first. -/
def redirectAll (sub : Substitute) (s : State) (saved : List Saved) (keep : Bool) :
    List Redirect → Program (State × List Saved × Option Bytes)
  | [] => return (s, saved, none)
  | .mk fd kind target :: rest => do
    let (s, text) ← match kind with
      | .document n => Expansion.single sub s (((s.documents.find? (·.1 == n)).map (·.2)).getD [])
      | _ => Expansion.single sub s target
    match text with
    | none => return (s, saved, none)
    | some text =>
      match ← openTarget s kind text with
      | .error message => return (s, saved, some message)
      | .ok opened =>
        -- A file that was opened under the very number shows that it was free before.
        let isOwn := match opened with
          | some (source, own) => own && source == fd
          | none => false
        let saved ← if keep then do
            if isOwn then pure ((fd, none) :: saved)
            else
              match ← Program.request (.duplicate fd ownFd true) with
              | .ok kept => pure ((fd, some kept) :: saved)
              | .error _ => pure ((fd, none) :: saved)
          else pure saved
        match ← bindTarget fd opened with
        | .error message => return (s, saved, some message)
        | .ok () => redirectAll sub s saved keep rest

end Coprocess.Shell
