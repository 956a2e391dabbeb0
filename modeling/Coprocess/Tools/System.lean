import Coprocess.Tools.Condition
import Coprocess.Tools.Characters
import Coprocess.Tools.Editing
import Coprocess.Tools.Evaluation
import Coprocess.Tools.Lines
import Coprocess.Tools.Names
import Coprocess.Tools.Searching
import Coprocess.Tools.Streams

/-!
# Tools for processes and terminals

The tools that look at what they run in: their environment, their terminal, other processes and the
clock.
-/

namespace Coprocess.Tools

open Host Shell

/-- Ends with a status. -/
def endsWith (status : Nat) : Tool := fun _ _ => return status

/-- Prints its arguments. -/
def echo : Tool := fun argv _ => Tool.prints argv (echoProgram (argv.drop 1))

/-- Prints by a format. -/
def printf : Tool := fun argv _ =>
  match argv.drop 1 with
  | [] => Tool.misused argv (raw "missing operand") 1
  | format :: args => do
    let (out, faults) := printed true format args
    let status ← Tool.prints argv out
    match faults with
    | [] => return status
    | fault :: _ => Tool.complains argv (raw "'" ++ fault ++ raw "': expected a numeric value")

/-- Says whether a condition holds. -/
def test : Tool := fun argv _ => do
  let args := argv.drop 1
  let bracketed := argv.head? == some (raw "[")
  if bracketed && args.getLast? != some (raw "]") then
    let _ ← Tool.complains argv (raw "missing ']'")
    return 2
  else
    match ← condition (if bracketed then args.dropLast else args) with
    | .ok v => return if v then 0 else 1
    | .error reason => do
      let _ ← Tool.complains argv reason
      return 2

/-! ### Environment -/

/-- Prints environment entries, or the values of some. -/
def printenv : Tool := fun argv envv =>
  match argv.drop 1 with
  | [] => Tool.prints argv (envv.flatMap (· ++ [10]))
  | names => do
    let found := names.filterMap fun n => Environment.get? n envv
    let status ← Tool.prints argv (found.flatMap (· ++ [10]))
    return if found.length == names.length then status else 1

/-- Tries a program in each of several directories. -/
def executeIn (argv envv : List Bytes) (reason : Errno) : List Bytes → Program Errno
  | [] => return reason
  | directory :: rest => do
    let path := if directory.isEmpty then argv.headD [] else directory ++ 0x2F :: argv.headD []
    let e ← Program.request (.execute path argv envv)
    if e == .ENOEXEC then
      Program.request (.execute (raw "/bin/sh") (raw "/bin/sh" :: path :: argv.drop 1) envv)
    else executeIn argv envv (if e == .ENOENT || e == .ENOTDIR then reason else e) rest

/-- Becomes a program that is looked for; yields the status if that fails. -/
def becomeProgram (own : List Bytes) (argv envv : List Bytes) : Program Nat := do
  let name := argv.headD []
  let places :=
    if name.contains 0x2F then [[]]
    else Bytes.splitOn 0x3A ((Environment.get? (raw "PATH") envv).getD (raw "/bin:/usr/bin"))
  let reason ← executeIn argv envv .ENOENT places
  let _ ← Tool.complains own (raw "'" ++ name ++ raw ("': " ++ reason.wording))
  return if reason == .ENOENT then 127 else 126

/-- Prints the environment, or runs a program in a changed one. -/
def env : Tool := fun argv envv =>
  let rec change (envv : List Bytes) : Nat → List Bytes → List Bytes × List Bytes
    | 0, args => (envv, args)
    | _, [] => (envv, [])
    | fuel + 1, arg :: rest =>
      if arg == raw "-i" || arg == raw "-" then change [] fuel rest
      else if arg == raw "-u" then
        change (Environment.remove (rest.headD []) envv) fuel (rest.drop 1)
      else if arg == raw "--" then (envv, rest)
      else if arg.contains 0x3D then
        let name := arg.takeWhile (· != 0x3D)
        change (Environment.put name (arg.drop (name.length + 1)) envv) fuel rest
      else (envv, arg :: rest)
  let (envv, args) := change envv argv.length (argv.drop 1)
  if args.isEmpty then Tool.prints argv (envv.flatMap (· ++ [10])) else becomeProgram argv args envv

/-- Runs a program that outlives the loss of its terminal. -/
def nohup : Tool := fun argv envv =>
  match argv.drop 1 with
  | [] => Tool.misused argv (raw "missing operand") 125
  | args => do
    let isTerminal (fd : Fd) : Program Bool := do return (← Program.request (.getModes fd)).isOk
    let ignored ← isTerminal 0
    let kept ← isTerminal 1
    if ignored then
      let _ ← Program.request (.close 0)
      let _ ← Program.request (.openFile (raw "/dev/null") { write := true })
    if kept then
      let _ ← Program.request (.close 1)
      let _ ←
        Program.request (.openFile (raw "nohup.out")
          { write := true, create := true, append := true })
    if ignored || kept then
      let told := String.intercalate " and " ((if ignored then ["ignoring input"] else []) ++
        if kept then ["appending output to 'nohup.out'"] else [])
      let _ ← Tool.complains argv (raw told)
    if (← isTerminal 2) then
      let _ ← Program.request (.duplicateOnto 1 2)
    let _ ← Program.request (.setDisposition hangupSignal .ignored)
    becomeProgram argv args envv

/-- Runs a program in a session of its own. -/
def setsid : Tool := fun argv envv => do
  if argv.length ≤ 1 then return ← Tool.misused argv (raw "no command specified") 1
  match ← Program.request .newSession with
  | .ok () => becomeProgram argv (argv.drop 1) envv
  | .error _ =>
    let child : Program Unit := do
      let _ ← Program.request .newSession
      Program.exit (← becomeProgram argv (argv.drop 1) envv)
    .fork child fun _ => return 0

/-! ### Time and signals -/

/-- The microseconds that a duration such as `1.5` or `2m` stands for. -/
def durationOf (text : Bytes) : Option Nat :=
  let whole := text.takeWhile isDigit
  let rest := text.drop whole.length
  let (part, rest) := match rest with
    | 0x2E :: rest => (rest.takeWhile isDigit, rest.dropWhile isDigit)
    | rest => ([], rest)
  let unit := match rest with
    | [] | [0x73] => some 1
    | [0x6D] => some 60
    | [0x68] => some 3600
    | [0x64] => some 86400
    | _ => none
  if whole.isEmpty && part.isEmpty then none
  else
    unit.map fun u => (decimal whole * 1000000 + decimal ((part ++ List.replicate 6 48).take 6)) * u

/-- Waits. -/
def sleep : Tool := fun argv _ =>
  match (argv.drop 1).mapM durationOf with
  | none =>
    let wrong := ((argv.drop 1).find? fun a => (durationOf a).isNone).getD []
    Tool.misused argv (raw "invalid time interval '" ++ wrong ++ raw "'") 1
  | some [] => Tool.misused argv (raw "missing operand") 1
  | some times => do
    let deadline := times.foldl (· + ·) (← Program.request .now)
    Program.iterate () fun _ => do
      match ← Program.request (.sleepUntil deadline) with
      | .ok () => return .inr 0
      | .error _ => return .inl ()

/-- Sends signals. -/
def kill : Tool := fun argv _ =>
  let args := argv.drop 1
  let (signal, targets) := match args with
    | dash :: name :: rest => if dash == raw "-s" then (signalOf name, rest) else match dash with
      | 0x2D :: n => (signalOf n, name :: rest)
      | _ => (some 15, args)
    | args => (some 15, args)
  match signal with
  | none => Tool.complains argv (raw "unknown signal")
  | some s =>
    Tool.forEach argv "sending signal failed to"
      (fun t => Program.request (.kill (decimal t) s)) 0 targets

/-! ### Terminals -/

/-- Prints the path of the terminal on the standard input. -/
def tty : Tool := fun argv _ => do
  match ← Program.request (.terminalName 0) with
  | .ok name => Tool.prints argv (name ++ [10])
  | .error _ => do
    let _ ← Tool.prints argv (raw "not a tty\n")
    return 1

/-- Settings that are accepted and change nothing. -/
def settledModes : List String :=
  ["ixon", "ixoff", "ixany", "iexten", "echoe", "echok", "echoctl", "echoke", "echonl", "noflsh",
   "tostop", "brkint", "imaxbel", "iutf8", "hupcl", "cread", "crtscts", "cs8", "parenb", "istrip",
   "inlcr", "igncr", "ocrnl", "onlret"]

/-- Settings that take an argument and change nothing that is kept. -/
def settledValues : List String :=
  ["min", "time", "intr", "quit", "erase", "kill", "eof", "eol", "eol2", "swtch", "start", "stop",
   "susp", "rprnt", "werase", "lnext", "discard", "ispeed", "ospeed", "line"]

/-- Changes modes as a setting says. -/
def changeModes (m : Modes) (setting : Bytes) : Option Modes :=
  let (on, name) := match setting with
    | 0x2D :: rest => (false, rest)
    | name => (true, name)
  if name == raw "echo" then some { m with echo := on }
  else if name == raw "icanon" then some { m with canonical := on }
  else if name == raw "isig" then some { m with signals := on }
  else if name == raw "opost" then some { m with postprocess := on }
  else if name == raw "onlcr" then some { m with newlineOut := on }
  else if name == raw "icrnl" then some { m with returnIn := on }
  else if name == raw "raw" then
    if on then
      some { m with canonical := false, signals := false, postprocess := false, returnIn := false }
    else some { m with canonical := true, signals := true, postprocess := true, returnIn := true }
  else if name == raw "cooked" then
    if on then
      some { m with canonical := true, signals := true, postprocess := true, returnIn := true }
    else
      some { m with canonical := false, signals := false, postprocess := false, returnIn := false }
  else if name == raw "cbreak" then some { m with canonical := !on }
  else if name == raw "nl" then some { m with returnIn := !on, newlineOut := !on }
  else if name == raw "sane" && on then some {}
  else if settledModes.any fun n => raw n == name then some m
  else none

/-- The words for modes, those that are off with a hyphen. -/
def modeWord (on : Bool) (name : String) : String := if on then name else "-" ++ name

/-- All that there is to say of a terminal. -/
def modeReport (m : Modes) (w : WindowSize) : String :=
  "speed 38400 baud; rows " ++ toString w.rows ++ "; columns " ++ toString w.columns ++
    "; line = 0;\n" ++
  "intr = ^C; quit = ^\\; erase = ^?; kill = ^U; eof = ^D; eol = <undef>;\n" ++
  "eol2 = <undef>; swtch = <undef>; start = ^Q; stop = ^S; susp = ^Z; rprnt = ^R;\n" ++
  "werase = ^W; lnext = ^V; discard = ^O; min = 1; time = 0;\n" ++
  "-parenb -parodd -cmspar cs8 -hupcl -cstopb cread -clocal -crtscts\n" ++
  "-ignbrk -brkint -ignpar -parmrk -inpck -istrip -inlcr -igncr " ++ modeWord m.returnIn "icrnl" ++
    " ixon -ixoff\n" ++
  "-iuclc -ixany -imaxbel -iutf8\n" ++
  modeWord m.postprocess "opost" ++ " -olcuc -ocrnl " ++ modeWord m.newlineOut "onlcr" ++
  " -onocr -onlret -ofill -ofdel nl0 cr0 tab0 bs0 vt0 ff0\n" ++
  modeWord m.signals "isig" ++ " " ++ modeWord m.canonical "icanon" ++ " iexten " ++
    modeWord m.echo "echo" ++
  " echoe echok -echonl -noflsh -xcase -tostop -echoprt\nechoctl echoke -flusho -extproc\n"

/-- Applies settings to the terminal on a descriptor, in order. -/
def applySettings (argv : List Bytes) (fd : Fd) (m : Modes) (w : WindowSize) :
    Nat → List Bytes → Program Nat
  | 0, _ => return 0
  | _, [] => do
    let _ ← Program.request (.setModes fd m)
    let _ ← Program.request (.setWindowSize fd w)
    return 0
  | fuel + 1, setting :: rest =>
    if setting == raw "size" then do
      let _ ← Tool.prints argv (raw (toString w.rows ++ " " ++ toString w.columns ++ "\n"))
      applySettings argv fd m w fuel rest
    else if setting == raw "rows" then
      applySettings argv fd m { w with rows := decimal (rest.headD []) } fuel (rest.drop 1)
    else if setting == raw "cols" || setting == raw "columns" then
      applySettings argv fd m { w with columns := decimal (rest.headD []) } fuel (rest.drop 1)
    else if settledValues.any fun n => raw n == setting then
      applySettings argv fd m w fuel (rest.drop 1)
    else if setting == raw "speed" then do
      let _ ← Tool.prints argv (raw "38400\n")
      applySettings argv fd m w fuel rest
    else if setting == raw "-a" || setting == raw "--all" then do
      let _ ← Tool.prints argv (raw (modeReport m w))
      applySettings argv fd m w fuel rest
    else match changeModes m setting with
      | some m => applySettings argv fd m w fuel rest
      | none => Tool.complains argv (raw "invalid argument '" ++ setting ++ raw "'")

/-- Changes and prints the modes of the terminal on the standard input. -/
def stty : Tool := fun argv _ => do
  let (named, settings) := match argv.drop 1 with
    | dash :: name :: rest => if dash == raw "-F" then (some name, rest) else (none, argv.drop 1)
    | settings => (none, settings)
  let fd ← match named with
    | none => pure (Except.ok 0)
    | some name => Program.request (.openFile name { read := true, noControl := true })
  let shown := match named with
    | none => raw "'standard input'"
    | some name => name
  match fd with
  | .error reason => Tool.complains argv (shown ++ raw (": " ++ reason.wording))
  | .ok fd =>
    match ← Program.request (.getModes fd), ← Program.request (.getWindowSize fd) with
    | .ok m, .ok w =>
      if settings.isEmpty then
        Tool.prints argv (raw ("speed 38400 baud; line = 0;\n-brkint -imaxbel\n" ++
          String.intercalate " "
          ((if m.returnIn then [] else ["-icrnl"]) ++ (if m.postprocess then [] else ["-opost"]) ++
            (if m.signals then [] else ["-isig"]) ++ (if m.canonical then [] else ["-icanon"]) ++
            (if m.echo then [] else ["-echo"])) ++ if m == ({} : Modes) then "" else "\n"))
      else applySettings argv fd m w (settings.length + 1) settings
    | .error reason, _ | _, .error reason =>
      Tool.complains argv (shown ++ raw (": " ++ reason.wording))

/-! ### Identity -/

/-- Prints who runs it. -/
def identity : Tool := fun argv _ =>
  let (letters, _) := options (argv.drop 1)
  if letters.contains 0x75 || letters.contains 0x67 then
    Tool.prints argv (raw (if letters.contains 0x6E then "root\n" else "0\n"))
  else Tool.prints argv (raw "uid=0(root) gid=0(root) groups=0(root)\n")

/-- Prints the name of who runs it. -/
def whoami : Tool := fun argv _ => Tool.prints argv (raw "root\n")

/-- Prints the name of the system. -/
def uname : Tool := fun argv _ => Tool.prints argv (raw "Linux\n")

/-! ### All tools -/

/-- The tools by name. -/
def table : List (String × Tool) := [
  ("cat", cat), ("echo", echo), ("printf", printf), ("true", endsWith 0), ("false", endsWith 1),
  ("yes", yes), ("sleep", sleep), ("sort", sort), ("uniq", uniq), ("rev", rev), ("tac", tac),
  ("nl", nl), ("od", od), ("dd", dd), ("wc", wc), ("grep", grep), ("sed", sed), ("expr", expr),
  ("tr", tr), ("cut", cut), ("head", head), ("tail", tail), ("tee", tee), ("seq", seq),
  ("env", env), ("printenv", printenv), ("nohup", nohup), ("setsid", setsid), ("test", test),
  ("[", test), ("kill", kill), ("tty", tty), ("stty", stty), ("ls", ls), ("rm", rm),
  ("mkdir", mkdir), ("rmdir", rmdir), ("touch", touch), ("ln", ln), ("cp", cp), ("mv", mv),
  ("chmod", chmod), ("readlink", readlink), ("pwd", printPlace), ("basename", basename),
  ("dirname", dirname), ("id", identity), ("whoami", whoami), ("uname", uname)]

end Coprocess.Tools
