import Coprocess.Host.Kernel.Outcome

/-!
# Open files

Opening, closing, reading and writing.  A reader of an empty pipe waits as long as somebody could
still write to it, and is at the end of the stream after that; a writer to a pipe without readers is
sent a signal and, if it outlives that, told so.  The master of a terminal reports an input error
once its slave side was open and is no longer; what was written to the screen before can still be
read.
-/

namespace Coprocess.Host

open Outcome

namespace World

/-! ### Binding -/

/-- Binds a description under the lowest free number. -/
def bindNext (w : World) (pid : Pid) (least : Fd) (d : Description) (cloexec : Bool) :
    Except Errno (Fd × World) :=
  match (w.process pid).nextFd least with
  | none => .error .EMFILE
  | some fd =>
    .ok (fd, w.modify pid fun p => { p with table := p.table.bind fd ⟨d, cloexec⟩ })

/-- What a process has open under a number. -/
def description? (w : World) (pid : Pid) (fd : Fd) : Except Errno Description :=
  match (w.process pid).table.find? fd with
  | some b => .ok b.description
  | none => .error .EBADF

/-- Replies with the number of a new binding. -/
def bindReply (w : World) (r : Except Errno (Fd × World)) : Outcome (Except Errno Fd) :=
  orRefuse w r fun (fd, w) => .reply (.ok fd) w

/-- Closes a descriptor. -/
def close (w : World) (pid : Pid) (fd : Fd) : Outcome (Except Errno Unit) :=
  orRefuse w (w.description? pid fd) fun _ =>
    carriedOut (w.modify pid fun p => { p with table := p.table.remove fd }).settle

/-- Binds the lowest free number to the same open file. -/
def duplicate (w : World) (pid : Pid) (fd least : Fd) (cloexec : Bool) :
    Outcome (Except Errno Fd) :=
  orRefuse w (w.description? pid fd) fun d => w.bindReply (w.bindNext pid least d cloexec)

/-- Binds a given number to the same open file. -/
def duplicateOnto (w : World) (pid : Pid) (fd target : Fd) : Outcome (Except Errno Fd) :=
  orRefuse w (w.description? pid fd) fun _ =>
    if fd == target then same w (.ok target)
    else if ((w.process pid).descriptorLimit.any (· ≤ target)) then refuse w .EBADF
    else .reply (.ok target)
      (w.modify pid fun p => { p with table := p.table.duplicate fd target }).settle

/-- Sets or clears the mark that ends a binding with the image. -/
def setCloexec (w : World) (pid : Pid) (fd : Fd) (on : Bool) : Outcome (Except Errno Unit) :=
  orRefuse w (w.description? pid fd) fun d =>
    carriedOut (w.modify pid fun p => { p with table := p.table.bind fd ⟨d, on⟩ })

/-- Makes a pipe.  Neither end stays bound if there is no number for the other. -/
def pipe (w : World) (pid : Pid) (cloexec : Bool) : Outcome (Except Errno (Fd × Fd)) :=
  let n := w.pipes.size
  let made := { w with pipes := w.pipes.push [] }
  match made.bindNext pid 0 (.pipeReader n) cloexec with
  | .error reason => refuse w reason
  | .ok (readEnd, made) =>
    match made.bindNext pid 0 (.pipeWriter n) cloexec with
    | .error reason => refuse w reason
    | .ok (writeEnd, made) => .reply (.ok (readEnd, writeEnd)) made

/-! ### Opening -/

/-- Binds a newly opened file of the tree. -/
def openEntry (w : World) (pid : Pid) (n : FileNumber) (mode : OpenMode) :
    Outcome (Except Errno Fd) :=
  let opened : Opened :=
    { file := n, read := mode.read, write := mode.write, append := mode.append }
  let made := { w with opened := w.opened.push opened }
  orRefuse w (made.bindNext pid 0 (.file w.opened.size) mode.cloexec) fun (fd, made) =>
    .reply (.ok fd) made

/-- Binds a file made up of the given bytes. -/
def openContent (w : World) (pid : Pid) (content : Bytes) (mode : OpenMode) :
    Outcome (Except Errno Fd) :=
  let (files, n) := w.files.add { node := .regular ⟨content.toArray⟩, permissions := 0o444 }
  { w with files }.openEntry pid n mode

/-- Makes a terminal and binds its master side. -/
def openMaster (w : World) (pid : Pid) (cloexec : Bool) : Outcome (Except Errno Fd) :=
  let t := w.terminals.size
  let (files, n) := w.files.add { node := .device (.slave t), permissions := 0o620 }
  let made := { w with
    files := files.enter w.terminalDirectory (Bytes.ofText (toString t)) n
    terminals := w.terminals.push {} }
  orRefuse w (made.bindNext pid 0 (.master t) cloexec) fun (fd, made) => .reply (.ok fd) made

/-- Binds the slave side of a terminal.  The leader of a session that has no terminal gets it as its
controlling one unless it asks not to. -/
def openSlave (w : World) (pid : Pid) (t : Nat) (mode : OpenMode) : Outcome (Except Errno Fd) :=
  let terminal := w.terminal t
  if terminal.hungUp then refuse w .EIO
  else
    orRefuse w (w.bindNext pid 0 (.slave t) mode.cloexec) fun (fd, made) =>
      let p := w.process pid
      -- A session leader without a terminal takes the first one that it opens.
      let takes :=
        !mode.noControl && p.session == pid && (w.controlling pid).isNone && terminal.session.isNone
      let terminal := { terminal with used := true }
      .reply (.ok fd) (made.setTerminal t (if takes then
        { terminal with session := some pid, foreground := some p.group } else terminal))

/-- The bytes of a list of arguments or environment entries, each ended by a zero byte. -/
def block (entries : List Bytes) : Bytes := entries.flatMap fun e => e ++ [0]

/-- Opens a device. -/
def openDevice (w : World) (pid : Pid) (d : Device) (mode : OpenMode) : Outcome (Except Errno Fd) :=
  let bound (d : Description) := w.bindReply (w.bindNext pid 0 d mode.cloexec)
  match d with
  | .null => bound (.null mode.read mode.write)
  | .full => bound .full
  | .zero => bound .zero
  | .multiplexer => w.openMaster pid mode.cloexec
  | .slave t => w.openSlave pid t mode
  | .ownTerminal =>
    match w.controlling pid with
    | some t => w.openSlave pid t mode
    | none => refuse w .ENXIO
  | .descriptor fd => orRefuse w ((w.description? pid fd).mapError fun _ => .ENOENT) bound
  | .arguments n =>
    if w.isAlive n then w.openContent pid (block (w.process n).argv) mode
    else w.openContent pid [] mode
  | .environment n =>
    if w.isAlive n then w.openContent pid (block (w.process n).envv) mode
    else w.openContent pid [] mode

/-- Opens a file that exists. -/
def openExisting (w : World) (pid : Pid) (n : FileNumber) (mode : OpenMode) :
    Outcome (Except Errno Fd) :=
  let file := w.files.get n
  match file.node with
  | .directory _ =>
    if mode.write || mode.create then refuse w .EISDIR
    else if !file.allows 4 then refuse w .EACCES
    else w.openEntry pid n mode
  | .device d => w.openDevice pid d mode
  -- Only an opening that does not follow links meets one here.
  | .link _ | .ownProcess => refuse w .ELOOP
  | .program _ => if mode.write then refuse w .ETXTBSY else w.openEntry pid n mode
  | .regular _ =>
    if !file.allows ((if mode.read then 4 else 0) ||| (if mode.write then 2 else 0)) then
      refuse w .EACCES
    else
      let files :=
        if mode.truncate && mode.write then w.files.set n { file with node := .regular .empty }
        else w.files
      { w with files }.openEntry pid n mode

/-- The permissions that no new file has. -/
def mask : Nat := 0o022

/-- The permissions of a new file for which others were asked. -/
def masked (permissions : Nat) : Nat := permissions - (permissions &&& mask)

/-- Opens a file, making it first if it is to be made. -/
def openFile (w : World) (pid : Pid) (path : Bytes) (mode : OpenMode) : Outcome (Except Errno Fd) :=
  -- No file is made if there is no number to open it under.
  if ((w.process pid).nextFd 0).isNone then refuse w .EMFILE
  else
    let follow := !(mode.create && mode.exclusive)
    orRefuse w (w.files.resolve pid (w.process pid).place path follow) fun target =>
      match target.file with
      | some n =>
        if mode.create && mode.exclusive then refuse w .EEXIST else w.openExisting pid n mode
      | none =>
        if !mode.create then refuse w .ENOENT
        else if target.slash then refuse w .EISDIR
        else
          let directory := target.place.headD Files.root
          if !(w.files.get directory).allows 2 then refuse w .EACCES
          else
            let (files, n) :=
              w.files.add { node := .regular .empty, permissions := masked mode.permissions }
            { w with files := files.enter directory target.name n }.openEntry pid n mode

/-! ### Reading -/

/-- The bytes of a byte array from a position on, at most `count`. -/
def slice (content : ByteArray) (position count : Nat) : Bytes :=
  (content.extract position (position + count)).toList

/-- Reads on from the position of an open file. -/
def readEntry (w : World) (n count : Nat) : Outcome (Except Errno Bytes) :=
  let opened := w.opened.getD n { file := 0, read := false, write := false, append := false }
  if !opened.read then refuse w .EBADF
  else match (w.files.get opened.file).node with
    | .directory _ => refuse w .EISDIR
    | .regular content =>
      let data := slice content opened.position count
      .reply (.ok data) { w with
        opened :=
          w.opened.setIfInBounds n { opened with position := opened.position + data.length } }
    | _ => same w (.ok [])

/-- Reads what there is, or waits until there is something. -/
def read (w : World) (pid : Pid) (fd count : Nat) : Outcome (Except Errno Bytes) :=
  orRefuse w (w.description? pid fd) fun d =>
    match d with
    | .pipeWriter _ => refuse w .EBADF
    | .pipeReader n =>
      let content := w.pipes.getD n []
      if count == 0 then same w (.ok [])
      else if !content.isEmpty then
        .reply (.ok (content.take count))
          { w with pipes := w.pipes.setIfInBounds n (content.drop count) }
      else if w.isHeld (· == .pipeWriter n) then .later none
      else same w (.ok [])
    | .master t =>
      let terminal := w.terminal t
      if count == 0 then same w (.ok [])
      else if !terminal.screen.isEmpty then
        .reply (.ok (terminal.screen.take count))
          (w.setTerminal t { terminal with screen := terminal.screen.drop count })
      -- What was shown before the last slave went away has been read by now.
      else if terminal.used && !w.isHeld (· == .slave t) then refuse w .EIO
      else .later none
    | .slave t =>
      let terminal := w.terminal t
      if terminal.hungUp || count == 0 then same w (.ok [])
      else if terminal.isReadable then
        let (data, terminal, signals) := terminal.read count
        let group := (terminal.foreground.map w.members).getD []
        .reply (.ok data)
          ((w.setTerminal t terminal).send (signals.flatMap fun s => group.map fun n => (n, s)))
      else .later none
    | .null reads _ => if reads then same w (.ok []) else refuse w .EBADF
    | .full | .zero => same w (.ok (List.replicate count 0))
    | .file n => w.readEntry n count

/-- Whether reading would not wait. -/
def isReadable (w : World) (pid : Pid) (fd : Fd) : Bool :=
  match w.read pid fd 1 with
  | .later _ => false
  | _ => true

/-! ### Writing -/

/-- How much a pipe holds before writers have to wait. -/
def pipeLimit : Nat := 65536

/-- The longest write to a pipe that is not split. -/
def atomicLimit : Nat := 4096

/-- Puts data into a byte array at a position, over what was there. -/
def overlay (content : ByteArray) (position : Nat) (data : Bytes) : ByteArray :=
  let gap := List.replicate (position - content.size) (0 : UInt8)
  content.extract 0 position ++ ⟨(gap ++ data).toArray⟩ ++
    content.extract (position + data.length) content.size

/-- Writes on from the position of an open file, or at its end. -/
def writeEntry (w : World) (n : Nat) (data : Bytes) : Outcome (Except Errno Nat) :=
  let opened := w.opened.getD n { file := 0, read := false, write := false, append := false }
  if !opened.write then refuse w .EBADF
  else
    let file := w.files.get opened.file
    match file.node with
    | .regular content =>
      let position := if opened.append then content.size else opened.position
      .reply (.ok data.length) { w with
        files := w.files.set opened.file
          { file with node := .regular (overlay content position data) }
        opened := w.opened.setIfInBounds n { opened with position := position + data.length } }
    | _ => refuse w .EBADF

/-- Writes as much as there is room for, or waits for room. -/
def write (w : World) (pid : Pid) (fd : Fd) (data : Bytes) : Outcome (Except Errno Nat) :=
  orRefuse w (w.description? pid fd) fun d =>
    match d with
    | .pipeReader _ => refuse w .EBADF
    | .pipeWriter n =>
      let content := w.pipes.getD n []
      let room := pipeLimit - content.length
      if data.isEmpty then same w (.ok 0)
      else if !w.isHeld (· == .pipeReader n) then
        -- A writer that ignores or catches the signal is told the reason instead.
        let w := w.signal pid 13
        if w.isAlive pid then refuse w .EPIPE else .gone w
      -- A short write is not split, even if some of it would fit.
      else if room == 0 || (data.length ≤ atomicLimit && room < data.length) then .later none
      else
        let taken := data.take room
        .reply (.ok taken.length) { w with pipes := w.pipes.setIfInBounds n (content ++ taken) }
    | .master t =>
      let terminal := w.terminal t
      if Terminal.screenLimit ≤ terminal.backlog.length then .later none
      else
        let (terminal, signals) := terminal.type data
        let group := (terminal.foreground.map w.members).getD []
        .reply (.ok data.length)
          ((w.setTerminal t terminal).send (signals.flatMap fun s => group.map fun n => (n, s)))
    | .slave t =>
      let terminal := w.terminal t
      if terminal.hungUp then refuse w .EIO
      else if data.isEmpty then same w (.ok 0)
      else if terminal.held || Terminal.screenLimit ≤ terminal.screen.length then .later none
      else .reply (.ok data.length) (w.setTerminal t (terminal.output data))
    | .null _ writes => if writes then same w (.ok data.length) else refuse w .EBADF
    | .full => if data.isEmpty then same w (.ok 0) else refuse w .ENOSPC
    | .zero => same w (.ok data.length)
    | .file n => w.writeEntry n data

/-! ### Terminals -/

/-- The terminal that a descriptor is open on, and whether on its master side. -/
def terminalOf (w : World) (pid : Pid) (fd : Fd) : Except Errno (Nat × Bool) := do
  match ← w.description? pid fd with
  | .master t => .ok (t, true)
  | .slave t => if (w.terminal t).hungUp then .error .EIO else .ok (t, false)
  | _ => .error .ENOTTY

/-- The path of a terminal's device. -/
def slavePath (t : Nat) : String := "/dev/pts/" ++ toString t

/-- The path of the terminal that a descriptor is open on. -/
def terminalName (w : World) (pid : Pid) (fd : Fd) : Except Errno Bytes := do
  match ← w.terminalOf pid fd with
  | (t, false) => .ok (Bytes.ofText (slavePath t))
  | (_, true) => .error .ENOTTY

/-- Makes a terminal the controlling one of a session that has none. -/
def controlTerminal (w : World) (pid : Pid) (fd : Fd) : Outcome (Except Errno Unit) :=
  orRefuse w (w.terminalOf pid fd) fun (t, _) =>
    let p := w.process pid
    let terminal := w.terminal t
    if p.session != pid || (w.controlling pid).isSome || terminal.session.isSome then
      refuse w .EPERM
    else
      carriedOut (w.setTerminal t { terminal with session := some pid, foreground := some p.group })

end World

end Coprocess.Host
