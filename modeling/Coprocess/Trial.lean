import Coprocess.FileAccess

/-!
# Trial runs

Running a program in a process of its own, with given input and with its output collected.  The
streams are files, so that neither side ever waits for the other.
-/

namespace Coprocess.Trial

open Host

/-- Where the standard output goes. -/
inductive OutputTo where
  /-- To a file that is read afterwards. -/
  | collected
  /-- To a device that has no room. -/
  | full
  /-- To a pipe that nobody reads. -/
  | unread
deriving DecidableEq, Repr

/-- What came of a trial. -/
structure Report where
  /-- The exit code, unless a signal ended the process. -/
  code : Option Nat
  output : Bytes
  diagnostics : Bytes
deriving Repr

/-- Where the files of a trial are kept. -/
def file (name : String) : Bytes := Bytes.ofText ("/tmp/" ++ name)

/-- The descriptor that a process writes its standard output to. -/
def openOutput (sink : OutputTo) : Program (Except Errno Fd) := do
  match sink with
  | .collected =>
    Program.request (.openFile (file "output") { write := true, create := true, cloexec := true })
  | .full =>
    Program.request (.openFile (Bytes.ofText "/dev/full") { write := true, cloexec := true })
  | .unread =>
    match ← Program.request (.pipe true) with
    | .error reason => return .error reason
    | .ok (readEnd, writeEnd) =>
      let _ ← Program.request (.close readEnd)
      return .ok writeEnd

/-- What the process does before it takes on its image. -/
def child (input output diagnostics : Fd) (path : Bytes) (argv envv : List Bytes) :
    Program Unit := do
  let _ ← Program.request (.duplicateOnto input 0)
  let _ ← Program.request (.duplicateOnto output 1)
  let _ ← Program.request (.duplicateOnto diagnostics 2)
  let _ ← Program.request (.setDisposition 13 .default)
  let _ ← Program.request (.execute path argv envv)
  Program.exit 127

/-- The code that a report tells of. -/
def codeOf : WaitReport → Option Nat
  | .exited code => some code
  | _ => none

/-- Runs the program at a path; `none` if that is not possible. -/
def run (path : Bytes) (argv envv : List Bytes) (input : Bytes) (sink : OutputTo) :
    Program (Option Report) := do
  let _ ← FileAccess.write (file "input") input
  match ← FileAccess.openFile (file "input") { read := true }, ← openOutput sink,
      ← FileAccess.openFile (file "diagnostics") { write := true, create := true } with
  | .ok inputFd, .ok outputFd, .ok diagnosticsFd =>
    .fork (child inputFd outputFd diagnosticsFd path argv envv) fun
      | .error _ => return none
      | .ok pid => do
        let _ ← Program.request (.close outputFd)
        match ← Program.request (.wait (some pid) true) with
        | .error _ => return none
        | .ok (_, report) =>
          let output := ((← FileAccess.read (file "output")).toOption).getD []
          let diagnostics := ((← FileAccess.read (file "diagnostics")).toOption).getD []
          return some { code := codeOf report, output, diagnostics }
  | _, _, _ => return none

end Coprocess.Trial
