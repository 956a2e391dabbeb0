import Coprocess.Host.Kernel.Processes

/-!
# Answering requests

`World.answer` says what comes of a request, `Call.interrupted` what a request that waits is told
when a caught signal arrives meanwhile.  The two requests to the terminal allocator in charge reach
the machine only if no allocator is in charge, and are refused.
-/

namespace Coprocess.Host

open Outcome

/-- The reply to a request that was waiting when a caught signal arrived. -/
def Call.interrupted : (c : Call) → Option c.Reply
  | .read .. => some (.error .EINTR)
  | .write .. => some (.error .EINTR)
  | .wait .. => some (.error .EINTR)
  | .awaitEnd .. => some (.error .EINTR)
  | .sleepUntil .. => some (.error .EINTR)
  | .awaitReadable .. => some false
  | _ => none

namespace World

/-- A reply that changes nothing, of a request that is refused or carried out without effect. -/
def looked {α : Type} (w : World) (r : Except Errno α) : Outcome (Except Errno α) := same w r

/-- The slave's name for the holder of a master. -/
def slaveName (w : World) (pid : Pid) (fd : Fd) : Except Errno String := do
  match ← w.terminalOf pid fd with
  | (t, true) => .ok (slavePath t)
  | (_, false) => .error .ENOTTY

/-- Changes the terminal that a descriptor is open on. -/
def onTerminal (w : World) (pid : Pid) (fd : Fd) (f : Terminal → Terminal) :
    Outcome (Except Errno Unit) :=
  orRefuse w (w.terminalOf pid fd) fun (t, _) => carriedOut (w.setTerminal t (f (w.terminal t)))

/-- Changes the size of a terminal, which is told to the processes in its foreground. -/
def resize (w : World) (pid : Pid) (fd : Fd) (size : WindowSize) : Outcome (Except Errno Unit) :=
  orRefuse w (w.terminalOf pid fd) fun (t, _) =>
    let terminal := w.terminal t
    let group := (terminal.foreground.map w.members).getD []
    let due := if terminal.size == size then [] else group.map fun n => (n, 28)
    carriedOut ((w.setTerminal t { terminal with size }).send due)

/-- The home directory of the only user there is. -/
def homeOfUser : Bytes := Bytes.ofText "/root"

/-- What comes of a request. -/
def answer (w : World) (pid : Pid) : (c : Call) → Outcome c.Reply
  | .openFile path mode => w.openFile pid path mode
  | .close fd => w.close pid fd
  | .read fd count => w.read pid fd count
  | .write fd data => w.write pid fd data
  | .duplicate fd least cloexec => w.duplicate pid fd least cloexec
  | .duplicateOnto fd target => w.duplicateOnto pid fd target
  | .setCloexec fd on => w.setCloexec pid fd on
  | .getCloexec fd =>
    match (w.process pid).table.find? fd with
    | some b => same w (.ok b.cloexec)
    | none => refuse w .EBADF
  | .pipe cloexec => w.pipe pid cloexec
  | .awaitReadable fd deadline =>
    if w.isReadable pid fd then same w true
    else if deadline ≤ w.clock then same w false
    else .later (some deadline)
  | .openMaster => w.openMaster pid true
  | .grantSlave master => w.looked ((w.terminalOf pid master).map fun _ => ())
  | .unlockSlave master => w.looked ((w.terminalOf pid master).map fun _ => ())
  | .slaveName master => w.looked (w.slaveName pid master)
  | .getModes fd => w.looked ((w.terminalOf pid fd).map fun (t, _) => (w.terminal t).modes)
  | .setModes fd modes => w.onTerminal pid fd (·.setModes modes)
  | .getWindowSize fd => w.looked ((w.terminalOf pid fd).map fun (t, _) => (w.terminal t).size)
  | .setWindowSize fd size => w.resize pid fd size
  | .acquireTerminal .. => same w (.error (.system "posix_openpt" .ENXIO))
  | .releaseTerminal .. => same w (.error (.system "release" .ENXIO))
  | .terminalName fd => w.looked (w.terminalName pid fd)
  | .pathLimit directory => w.looked (w.pathLimit pid directory)
  | .fileInfo path follow => w.looked (w.infoAt pid path follow)
  | .descriptorInfo fd => w.looked (w.descriptorInfo pid fd)
  | .mayAccess path ways => w.looked (w.mayAccess pid path ways)
  | .listDirectory path => w.looked (w.listDirectory pid path)
  | .readLink path => w.looked (w.readLink pid path)
  | .makeDirectory path permissions => w.makeDirectory pid path permissions
  | .makeLink target path => w.makeLink pid target path
  | .removeFile path => w.removeEntry pid path false
  | .removeDirectory path => w.removeEntry pid path true
  | .rename source target => w.rename pid source target
  | .setPermissions path permissions => w.setPermissions pid path permissions
  | .changeDirectory path => w.changeDirectory pid path
  | .workingDirectory => same w (w.files.pathOf (w.process pid).place)
  | .execute path argv envv => w.execute pid path argv envv
  | .exit code => .gone (w.finishAndTell pid (.exited (code % 256)))
  | .wait child block => w.wait pid child block
  | .awaitEnd child => w.awaitEnd pid child
  | .kill target s => w.kill pid target s
  | .processId => same w pid
  | .parentId => same w (w.process pid).parent
  | .newSession => w.newSession pid
  | .controlTerminal fd => w.controlTerminal pid fd
  | .setDisposition s d => w.setDisposition pid s d
  | .takeSignals => .reply (w.process pid).arrived (w.modify pid ({ · with arrived := [] }))
  | .now => same w w.clock
  | .sleepUntil deadline => if deadline ≤ w.clock then carriedOut w else .later (some deadline)
  | .setAlarm interval => .reply () (w.setAlarm pid interval)
  | .limitDescriptors more => .reply () (w.limitDescriptors pid more)
  | .isPrivileged => same w (w.process pid).privileged
  | .homeDirectory => same w (some homeOfUser)
  | .dropPrivileges => refuse w .EPERM
  | .log event => .reply () (w.told event)

end World

end Coprocess.Host
