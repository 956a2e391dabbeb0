import Coprocess.Shell.Run

/-!
# Starting a shell

What a shell is told by its arguments and its environment, and where its commands come from: an
argument, a file, or the standard input.
-/

namespace Coprocess.Shell

open Host Tools

/-- How much of a script is read at once. -/
def scriptChunk : Nat := 8192

/-- Runs the commands that come from a descriptor, as they come. -/
def runStream (fd : Fd) (s : State) : Program State :=
  Program.iterate (s, ({ rest := [], whole := false } : Reader)) fun (s, reader) => do
    let reader := { reader with documents := s.documents, nextDocument := s.documents.length }
    match completeCommand.run reader with
    | .ok (none, _) => return .inr s
    | .ok (some c, reader) =>
      let s ← run depthLimit false c { s with documents := reader.documents }
      if s.flow == .next then return .inl (s, { reader with peeked := none }) else return .inr s
    | .error (.wrong line message) => return .inr (← giveUp { s with line } message)
    | .error .incomplete =>
      match ← Program.request (.read fd scriptChunk) with
      | .ok [] => return .inl (s, { reader with whole := true })
      | .ok data => return .inl (s, { reader with rest := reader.rest ++ data.filter (· != 0) })
      | .error reason =>
        if reason == .EINTR then return .inl (s, reader)
        else return .inl (s, { reader with whole := true })

/-- Whether an argument is a group of options, which may have no letters. -/
def isOption (arg : Bytes) : Bool := arg.head? == some 0x2D || arg.head? == some 0x2B

/-- Reads the options of a shell: the options, whether commands come from an argument, whether they
come from the standard input, and what is left. -/
def startOptions (o : Options) (c i : Bool) :
    List Bytes → Except Bytes (Options × Bool × Bool × List Bytes)
  | [] => .ok (o, c, i, [])
  | arg :: rest =>
    if arg == raw "--" || arg == raw "-" then .ok (o, c, i, rest)
    else if !isOption arg then .ok (o, c, i, arg :: rest)
    else
      let letters := arg.drop 1
      let others := letters.filter fun d => d != 0x63 && d != 0x73 && d != 0x6C
      match Builtin.takeOptions o [arg.take 1 ++ others] with
      | .ok (o, _) => startOptions o (c || letters.contains 0x63) (i || letters.contains 0x73) rest
      | .error reason => .error reason

/-- Where the shell stands at first: at what its environment says if that is true. -/
def startPlace (s : State) : Program Bytes := do
  let told := (s.value? (raw "PWD")).getD []
  if told.head? == some 0x2F then
    match ← Program.request (.fileInfo told true), ← Program.request (.fileInfo (raw ".") true) with
    | .ok there, .ok here =>
      if there.number == here.number then return told else Program.request .workingDirectory
    | _, _ => Program.request .workingDirectory
  else Program.request .workingDirectory

/-- What the shell does with its arguments and environment. -/
def main (argv envv : List Bytes) : Program Unit := do
  let pid ← Program.request .processId
  let parent ← Program.request .parentId
  let own := argv.headD (raw "sh")
  let s := State.initial own pid parent envv
  let s := s.standingAt (← startPlace s)
  match startOptions s.options false false (argv.drop 1) with
  | .error reason => do
    let s ← giveUp { s with line := 0 } reason
    Program.exit s.status
  | .ok (options, fromArgument, fromInput, rest) =>
    let s := { s with options }
    if fromArgument then
      match rest with
      | [] => do
        let s ← giveUp { s with line := 0 } (raw "-c requires an argument")
        Program.exit s.status
      | text :: rest =>
        let s := { s with name := rest.headD own, params := rest.drop 1 }
        finishShell depthLimit (← runText depthLimit true text s)
    else if fromInput || rest.isEmpty then
      finishShell depthLimit (← runStream 0 { s with params := rest })
    else
      let file := rest.headD []
      match ← Program.request (.openFile file { read := true, cloexec := true }) with
      | .error reason => do
        let s ← giveUp { s with line := 0 } (cannot "open" file "No such file" reason)
        Program.exit s.status
      | .ok fd => do
        let kept ← Program.request (.duplicate fd ownFd true)
        let fd ← match kept with
          | .ok kept => do
            let _ ← Program.request (.close fd)
            pure kept
          | .error _ => pure fd
        finishShell depthLimit (← runStream fd { s with name := file, params := rest.drop 1 })

end Coprocess.Shell
