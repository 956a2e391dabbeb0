import Coprocess.Shell.Builtin

/-!
# Builtins for processes

Waiting for children and sending signals.
-/

namespace Coprocess.Shell

open Host Tools

namespace Builtin

/-- What a wait report is as a status. -/
def statusOf : WaitReport → Nat
  | .exited code => code
  | .killed s _ => 128 + s
  | .stopped s => 128 + s
  | _ => 0

/-- Waits for one child; interruptions are passed over. -/
def awaitChild (pid : Pid) : Program (Option WaitReport) :=
  Program.iterate () fun _ => do
    match ← Program.request (.wait (some pid) true) with
    | .ok (_, report) => return .inr (some report)
    | .error reason => if reason == .EINTR then return .inl () else return .inr none

/-- Tells of a child that a signal ended, unless everybody expects it. -/
def tellEnd (report : WaitReport) : Program Unit := do
  match report with
  | .killed n dumped =>
    if n != 2 && n != 13 then
      let _ ← writeAll 2 (raw (signalText n ++ (if dumped then " (core dumped)" else "") ++ "\n"))
  | _ => return ()

/-- Waits for children, telling how they ended if `told`, and yields the status of the last. -/
def awaitAll (s : State) (told : Bool) (status : Nat) : List Pid → Program State
  | [] => return ends s status
  | pid :: rest => do
    match ← Program.request (.wait (some pid) true) with
    | .ok (_, report) =>
      if told then tellEnd report
      awaitAll { s with jobs := s.jobs.filter (· != pid) } told (statusOf report) rest
    | .error reason =>
      if reason == .EINTR then return ends s 129
      else awaitAll s told 127 rest

/-- Waits for background commands. -/
def wait : Builtin := fun s args =>
  match args with
  | [] => do
    let s ← awaitAll s false 0 s.jobs
    return if s.status == 129 then s else ends s 0
  | args => awaitAll s true 0 (args.map decimal)

/-- Sends a signal to processes. -/
def sendAll (s : State) (signal : Signal) : List Bytes → Program State
  | [] => return s
  | target :: rest => do
    if !target.isEmpty && target.all isDigit then
      match ← Program.request (.kill (decimal target) signal) with
      | .ok () => sendAll s signal rest
      | .error reason => do
        complain s (raw reason.wording ++ [10])
        sendAll (ends s 1) signal rest
    else do
      complain s (raw "Illegal number: " ++ target)
      return ends s 2

/-- How `kill` is used. -/
def killUsage : String :=
  "Usage: kill [-s sigspec | -signum | -sigspec] [pid | job]... or\nkill -l [exitstatus]"

/-- Names the signal that a number or a status stands for. -/
def nameSignal (s : State) (arg : Bytes) : Program State :=
  if arg.isEmpty || !arg.all isDigit then refuses s 2 (raw "Illegal number: " ++ arg)
  else
    let n := if 128 < decimal arg then decimal arg - 128 else decimal arg
    if n == 0 || lastSignal < n then
      refuses s 2 (raw "invalid signal number or exit status: " ++ arg)
    else prints s (raw (signalName n) ++ [10])

/-- Sends signals, or lists them. -/
def kill : Builtin := fun s args =>
  let toAll (signal : Signal) (targets : List Bytes) : Program State :=
    let targets := if targets.head? == some (raw "--") then targets.drop 1 else targets
    if targets.isEmpty then refuses s 2 (raw killUsage) else sendAll (ends s 0) signal targets
  match args with
  | [] => refuses s 2 (raw killUsage)
  | (0x2D :: name) :: rest =>
    match (if name == [0x2D] then some 15 else signalOf name) with
    | some signal => toAll signal rest
    | none =>
      match name with
      | 0x6C :: _ =>
        match rest with
        | [] => prints s (raw "0\n" ++ signalNames.flatMap fun n => raw n ++ [10])
        | arg :: _ => nameSignal s arg
      | 0x73 :: given =>
        let (given, rest) := if given.isEmpty then (rest.headD [], rest.drop 1) else (given, rest)
        match signalOf given with
        | some signal => toAll signal rest
        | none => refuses s 2 (raw "invalid signal number or name: " ++ given)
      | name => refuses s 2 (raw "Illegal option -" ++ name.take 1)
  | args => toAll 15 args

end Builtin

end Coprocess.Shell
