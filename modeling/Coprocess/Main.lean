import Coprocess.Installation
import Coprocess.Trial

/-!
# The command

`coproc` as a command of its own.  It runs on a fresh machine, which gets the arguments, the
standard input and some variables of the environment from outside; what comes of the run is printed
at its end.
-/

namespace Coprocess.Main

/-- The variables that the machine gets from outside. -/
def passedOn : List String :=
  ["PATH", "HOME", "XDG_CONFIG_HOME", "RUST_LOG", "NO_COLOR", "CLICOLOR_FORCE"]

/-- The environment of the machine. -/
def environment : IO (List Bytes) := do
  let entries ← passedOn.mapM fun name => do
    return (← IO.getEnv name).map fun value =>
      Environment.join (Bytes.ofText name) (Bytes.ofText value)
  return entries.filterMap id

/-- Reads a stream to its end, behind what was read before. -/
partial def readAll (stream : IO.FS.Stream) (before : ByteArray) : IO ByteArray := do
  let data ← stream.read 65536
  if data.isEmpty then return before else readAll stream (before ++ data)

/-- Prints bytes to a stream. -/
def print (stream : IO.FS.Stream) (bytes : Bytes) : IO Unit := do
  stream.write ⟨bytes.toArray⟩
  stream.flush

end Coprocess.Main

open Coprocess in
/-- Runs the front end with the given arguments and prints what comes of it. -/
def main (args : List String) : IO UInt32 := do
  let block ← Main.environment
  let input ← Main.readAll (← IO.getStdin) .empty
  let argv := Bytes.ofText Installation.frontEndName :: args.map Bytes.ofText
  match Installation.perform block
    (Trial.run Installation.frontEndPath argv block input.toList .collected) with
  | some (some report, _) =>
    Main.print (← IO.getStdout) report.output
    Main.print (← IO.getStderr) report.diagnostics
    return UInt32.ofNat (report.code.getD 1)
  | _ => return 1
