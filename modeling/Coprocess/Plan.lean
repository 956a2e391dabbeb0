import Coprocess.Environment
import Coprocess.Search
import Coprocess.Host.Program

/-!
# Execution plans

Turning a command into a program image happens in two steps.  Before the fork, `Plan.build` works
out everything the child could need: which paths it will try, and for each the argument list of the
shell that runs the file if it turns out to have no header.  After the fork, `Plan.run` only walks
what was prepared, asking for one image after the other.  A request that fails is never repeated;
the child that runs out of them exits.

Everything handed to the system ends at its first zero byte, so a plan is built only from byte
strings that hold none (`Plan.terminated`).
-/

namespace Coprocess

open Host

/-- One file to try, and the argument list of the shell that runs it as a script. -/
structure Candidate where
  path : Bytes
  fallback : List Bytes
deriving DecidableEq, Repr

/-- The files a child will try. -/
inductive Strategy where
  /-- The shell, with these arguments. -/
  | shell (argv : List Bytes)
  | direct (candidate : Candidate)
  | search (candidates : List Candidate)
deriving DecidableEq, Repr

/-- What every way of resolving a command needs. -/
structure Frame where
  shell : Bytes
  argv : List Bytes
  envv : List Bytes
deriving DecidableEq, Repr

/-- Everything a child needs to become the command. -/
structure Plan extends Frame where
  strategy : Strategy
deriving DecidableEq, Repr

namespace Plan

/-! ### Building -/

/-- A byte string that can be handed to the system as it is. -/
def terminated (b : Bytes) : Except Rejection Bytes :=
  if b.hasNul then .error .nulByte else .ok b

/-- The shell, the arguments and the environment: the command's own, or the block passed on. -/
def frameFor (c : Command) (exec : ExecSettings) (block : List Bytes) : Except Rejection Frame := do
  let shell ← terminated exec.shell
  let argv ← ((c.argv.getD []).map Bytes.ofText).mapM terminated
  let envv ← match c.envv with
    | some envv => (envv.map Bytes.ofText).mapM terminated
    | none => (Environment.inherited block).mapM terminated
  return { shell, argv, envv }

/-- A file to try, with the shell invocation `[shell, path, argv[1..]...]` behind it. -/
def candidate (path : Bytes) (args : List Bytes) (exec : ExecSettings) :
    Except Rejection Candidate := do
  let shell ← terminated exec.shell
  let path ← terminated path
  -- The path takes the place of the name that the program would have got first.
  let rest ← (args.drop 1).mapM terminated
  return { path, fallback := shell :: path :: rest }

/-- The files to try for a command of the given kind. -/
def strategyFor (c : Command) (kind : Command.Kind) (ctx : SearchContext) (exec : ExecSettings) :
    Except Rejection Strategy := do
  let args := (c.argv.getD []).map Bytes.ofText
  match kind with
  | .shell =>
    let argv ← [Bytes.ofText "sh", Bytes.ofText "-c", Bytes.ofText c.line].mapM terminated
    return .shell argv
  | .path => return .direct (← candidate (Bytes.ofText c.line) args exec)
  | .bare =>
    return .search (← (Search.candidates c.line ctx exec).mapM fun path => candidate path args exec)

/-- The plan for a command of the given kind, in a process with the given environment block. -/
def build (c : Command) (kind : Command.Kind) (ctx : SearchContext) (exec : ExecSettings)
    (block : List Bytes) : Except Rejection Plan := do
  let frame ← frameFor c exec block
  return { frame with strategy := ← strategyFor c kind ctx exec }

/-- What is told of the search while a plan for a bare name is built. -/
def notes (c : Command) (kind : Command.Kind) (ctx : SearchContext) (exec : ExecSettings) :
    List Event :=
  match kind with
  | .bare =>
    ((Search.dropped c.line ctx exec).map fun path =>
      .candidateSkipped path.length ctx.pathLimit) ++
      [.candidatesResolved c.line (Search.candidates c.line ctx exec).length
        (ctx.effectivePath exec)]
  | _ => []

/-- Tells of each event in turn. -/
def tellAll : List Event → Program Unit
  | [] => pure ()
  | e :: rest => do
    Program.tell e
    tellAll rest

/-- Builds a plan and tells of the search; nothing is told if the plan fails before the search. -/
def prepare (c : Command) (kind : Command.Kind) (ctx : SearchContext) (exec : ExecSettings)
    (block : List Bytes) : Program (Except Rejection Plan) :=
  match frameFor c exec block with
  | .error reason => pure (.error reason)
  | .ok frame => do
    -- Candidates are told of before they are checked for zero bytes.
    tellAll (notes c kind ctx exec)
    return (strategyFor c kind ctx exec).map fun strategy => { frame with strategy }

/-! ### Running -/

/-- The signal sent to a writer that nobody reads from. -/
def brokenPipeSignal : Signal := 13

/-- Tries the candidates in order.  A file without a header is given to the shell, once, and ends
the search; any other failure moves on. -/
def tryEach (p : Plan) : List Candidate → Program Unit
  | [] => pure ()
  | c :: rest => do
    let reason ← Program.request (.execute c.path p.argv p.envv)
    if reason == .ENOEXEC then
      let _ ← Program.request (.execute p.shell c.fallback p.envv)
    else tryEach p rest

/-- Asks for the planned images in turn. -/
def attempts (p : Plan) : Program Unit :=
  match p.strategy with
  | .shell argv => do
    let _ ← Program.request (.execute p.shell argv p.envv)
  | .direct c => do
    let reason ← Program.request (.execute c.path p.argv p.envv)
    if reason == .ENOEXEC then
      let _ ← Program.request (.execute p.shell c.fallback p.envv)
  | .search candidates => p.tryEach candidates

/-- Becomes the command, or exits.  The engine's process ignores the signal for broken pipes, which
a new image would keep doing, so it is set back first. -/
def run (p : Plan) : Program Unit := do
  let _ ← Program.request (.setDisposition brokenPipeSignal .default)
  p.attempts
  -- Only a child that got none of its images comes here.
  Program.exit Status.unresolvedCode

end Plan

end Coprocess
