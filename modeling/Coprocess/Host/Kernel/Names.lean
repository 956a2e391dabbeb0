import Coprocess.Host.Kernel.Descriptors

/-!
# Requests about names

Asking about files, making and removing them, and standing somewhere else.  A new name needs a
directory that may be written to; a name that is taken is never taken over silently, `rename` apart.
-/

namespace Coprocess.Host

open Outcome

namespace World

/-- Where a path leads for a process. -/
def resolve (w : World) (pid : Pid) (path : Bytes) (follow : Bool) : Except Errno Target :=
  w.files.resolve pid (w.process pid).place path follow

/-- The file that a path leads to for a process. -/
def fileAt (w : World) (pid : Pid) (path : Bytes) (follow : Bool) : Except Errno FileNumber :=
  w.files.find pid (w.process pid).place path follow

/-- What is known about a file. -/
def infoOf (w : World) (n : FileNumber) : FileInfo :=
  let f := w.files.get n
  ⟨f.kind, f.permissions, f.size, n⟩

/-- What is known about an open file. -/
def descriptorInfo (w : World) (pid : Pid) (fd : Fd) : Except Errno FileInfo := do
  match ← w.description? pid fd with
  | .pipeReader _ | .pipeWriter _ => .ok ⟨.channel, 0o600, 0, 0⟩
  | .file n => .ok (w.infoOf ((w.opened[n]?.map (·.file)).getD 0))
  | _ => .ok ⟨.device, 0o620, 0, 0⟩

/-- What is known about the file at a path; the names of descriptors are links to what is open
there. -/
def infoAt (w : World) (pid : Pid) (path : Bytes) (follow : Bool) : Except Errno FileInfo := do
  let n ← w.fileAt pid path follow
  match (w.files.get n).node with
  | .device (.descriptor fd) =>
    if follow then
      match w.descriptorInfo pid fd with
      | .ok info => .ok info
      | .error _ => .error .ENOENT
    else .ok { w.infoOf n with kind := .link }
  | _ => .ok (w.infoOf n)

/-- Whether a file may be used in all of the given ways. -/
def mayAccess (w : World) (pid : Pid) (path : Bytes) (ways : Nat) : Except Errno Unit := do
  if (w.files.get (← w.fileAt pid path true)).allows ways then .ok () else .error .EACCES

/-- The names in a directory. -/
def listDirectory (w : World) (pid : Pid) (path : Bytes) : Except Errno (List Bytes) := do
  let n ← w.fileAt pid path true
  if !w.files.isDirectory n then .error .ENOTDIR
  else if !(w.files.get n).allows 4 then .error .EACCES
  else .ok ((w.files.entries n).map (·.1))

/-- What a symbolic link leads to. -/
def readLink (w : World) (pid : Pid) (path : Bytes) : Except Errno Bytes := do
  match (w.files.get (← w.fileAt pid path false)).node with
  | .link target => .ok target
  | .ownProcess => .ok (Bytes.ofText (toString pid))
  | _ => .error .EINVAL

/-- Enters a new file under a path that is not taken. -/
def makeEntry (w : World) (pid : Pid) (path : Bytes) (f : File) : Outcome (Except Errno Unit) :=
  orRefuse w (w.resolve pid path false) fun target =>
    let directory := target.place.headD Files.root
    if target.file.isSome then refuse w .EEXIST
    else if !(w.files.get directory).allows 2 then refuse w .EACCES
    else
      let (files, n) := w.files.add f
      carriedOut { w with files := files.enter directory target.name n }

/-- Makes a directory. -/
def makeDirectory (w : World) (pid : Pid) (path : Bytes) (permissions : Nat) :
    Outcome (Except Errno Unit) :=
  w.makeEntry pid path { node := .directory [], permissions := masked permissions }

/-- Makes a symbolic link. -/
def makeLink (w : World) (pid : Pid) (target path : Bytes) : Outcome (Except Errno Unit) :=
  if target.isEmpty then refuse w .ENOENT
  else w.makeEntry pid path { node := .link target, permissions := 0o777 }

/-- Removes a name, of a file or of an empty directory as asked. -/
def removeEntry (w : World) (pid : Pid) (path : Bytes) (directory : Bool) :
    Outcome (Except Errno Unit) :=
  orRefuse w (w.resolve pid path false) fun target =>
    let parent := target.place.headD Files.root
    match target.file with
    | none => refuse w .ENOENT
    | some n =>
      if target.name.isEmpty then refuse w (if directory then .EINVAL else .EISDIR)
      else if !(w.files.get parent).allows 2 then refuse w .EACCES
      else if directory && !w.files.isDirectory n then refuse w .ENOTDIR
      else if !directory && w.files.isDirectory n then refuse w .EISDIR
      else if directory && !(w.files.entries n).isEmpty then refuse w .ENOTEMPTY
      else carriedOut { w with files := w.files.leave parent target.name }

/-- Gives a file another name, in the place of what that name meant before. -/
def rename (w : World) (pid : Pid) (source path : Bytes) : Outcome (Except Errno Unit) :=
  orRefuse w (w.resolve pid source false) fun old =>
    orRefuse w (w.resolve pid path false) fun new =>
      match old.file with
      | none => refuse w .ENOENT
      | some n =>
        let replaced := new.file.filter (· != n)
        if replaced.any fun m => w.files.isDirectory m && !w.files.isDirectory n then
          refuse w .EISDIR
        else if replaced.any fun m => !w.files.isDirectory m && w.files.isDirectory n then
          refuse w .ENOTDIR
        else if replaced.any fun m => !(w.files.entries m).isEmpty then refuse w .ENOTEMPTY
        else if new.file == some n then carriedOut w
        else
          let files := w.files.leave (old.place.headD Files.root) old.name
          carriedOut { w with files := files.enter (new.place.headD Files.root) new.name n }

/-- Changes what the owner of a file may do with it. -/
def setPermissions (w : World) (pid : Pid) (path : Bytes) (permissions : Nat) :
    Outcome (Except Errno Unit) :=
  orRefuse w (w.fileAt pid path true) fun n =>
    carriedOut { w with files := w.files.set n { w.files.get n with permissions } }

/-- Stands at another directory. -/
def changeDirectory (w : World) (pid : Pid) (path : Bytes) : Outcome (Except Errno Unit) :=
  orRefuse w (w.files.findPlace pid (w.process pid).place path) fun place =>
    carriedOut (w.modify pid ({ · with place }))

/-- The limit on paths under a directory, if the directory is there. -/
def pathLimit (w : World) (pid : Pid) (directory : Bytes) : Except Errno (Option Int) := do
  let _ ← w.fileAt pid directory true
  .ok (some Files.pathLimit)

end World

end Coprocess.Host
