import Coprocess.Shell.Builtins
import Coprocess.Shell.Grammar
import Coprocess.Shell.Lookup
import Coprocess.Shell.Redirection
import Coprocess.Shell.Traps

/-!
# Running commands

`run` carries out a command.  The flag `last` says that the shell has nothing to do afterwards, so
that it may take on the image of the command instead of forking; it does not if signals are trapped.

Running needs fuel for the depth only: a loop takes none for its rounds.  A shell that is nested
deeper than `depthLimit` gives up.
-/

namespace Coprocess.Shell

open Host Tools

/-- How deep commands may be nested. -/
def depthLimit : Nat := 100000

/-! ### Other processes -/

/-- Reads all that comes from a descriptor. -/
def readAll (fd : Fd) : Program Bytes :=
  Program.iterate ([] : List Bytes) fun chunks => do
    match ← Program.request (.read fd 4096) with
    | .ok [] => return .inr chunks.reverse.flatten
    | .ok data => return .inl (data :: chunks)
    | .error reason =>
      if reason == .EINTR then return .inl chunks else return .inr chunks.reverse.flatten

/-- Sets trapped signals back to what they do by default. -/
def untrap : List (Signal × Bytes) → Program Unit
  | [] => return ()
  | (n, action) :: rest => do
    if n != 0 && !action.isEmpty then
      let _ ← Program.request (.setDisposition n .default)
    untrap rest

/-- The state of a copy of a shell. -/
def copyOf (s : State) : State :=
  { s with traps := s.traps.filter (·.2.isEmpty), copied := true, jobs := [], loops := 0,
           substituted := none }

/-- Waits for a child in the foreground, and yields its status. -/
def awaitForeground (pid : Pid) : Program Nat := do
  match ← Builtin.awaitChild pid with
  | some report =>
    Builtin.tellEnd report
    return Builtin.statusOf report
  | none => return 127

/-- Waits for children in the foreground, and yields the status of the last. -/
def awaitPipeline (status : Nat) : List Pid → Program Nat
  | [] => return status
  | pid :: rest => do awaitPipeline (← awaitForeground pid) rest

/-! ### Commands -/

/-- Whether signals are trapped. -/
def hasTraps (s : State) : Bool := s.traps.any (!·.2.isEmpty)

/-- What follows a command that was not looked at: the shell ends if it was told to on failures. -/
def checked (s : State) : State :=
  if s.options.exitOnError && !s.tested && s.status != 0 && s.flow == .next then
    { s with flow := .ending }
  else s

/-- What a loop makes of how its body ended: whether it is over, and how the shell goes on. -/
def afterRound (s : State) : Bool × State :=
  match s.flow with
  | .next => (false, s)
  | .leave n => (true, { s with flow := if n ≤ 1 then .next else .leave (n - 1) })
  | .again n =>
    if n ≤ 1 then (false, { s with flow := .next }) else (true, { s with flow := .again (n - 1) })
  | _ => (true, s)

/-- Marks the variables that a command is given for itself. -/
def assignAll (sub : Substitute) (s : State) (mark : Bool) :
    List (Bytes × Word) → Program (State × Bool)
  | [] => return (s, true)
  | (name, w) :: rest => do
    let (s, value) ← Expansion.single sub s (Expansion.assigned s true w)
    match value with
    | none => return (s, false)
    | some value =>
      if s.isFixed name then
        return (← giveUp s (name ++ raw ": is read only"), false)
      else
        let s := s.assign name value
        let s := if mark then s.putVariable name { value := some value, exported := true } else s
        assignAll sub s mark rest

/-- Shows a command before it is run, if the shell was told to. -/
def traces (s : State) (assignments : List (Bytes × Word)) (args : List Bytes) : Program Unit := do
  if s.options.trace && !(assignments.isEmpty && args.isEmpty) then
    let given := assignments.map fun (name, _) => name ++ 0x3D :: (s.value? name).getD []
    let _ ← writeAll 2 ((s.value? (raw "PS4")).getD [] ++ joined (given ++ args) ++ [10])

/-- Puts variables back. -/
def putBack (s : State) : List (Bytes × Option Variable) → State
  | [] => s
  | (name, old) :: rest =>
    putBack (match old with
      | some v => s.putVariable name v
      | none => s.dropVariable name) rest

mutual

/-- Runs a command. -/
def run (fuel : Nat) (last : Bool) (c : Command) (s : State) : Program State :=
  match fuel with
  | 0 => giveUp s (raw "nested too deeply")
  | fuel + 1 => do
    if s.options.noExecution then return s
    let s ← runBare fuel last c s
    runTraps fuel s

/-- Runs a command, and leaves signals that arrived meanwhile alone. -/
def runBare (fuel : Nat) (last : Bool) (c : Command) (s : State) : Program State :=
  match fuel with
  | 0 => giveUp s (raw "nested too deeply")
  | fuel + 1 =>
    match c with
    | .empty => return s
    | .sequence first second => do
      let s ← run fuel false first s
      if s.flow == .next then run fuel last second s else return s
    | .both first second => do
      let s ← runTested fuel first s
      if s.flow == .next && s.status == 0 then run fuel last second s else return s
    | .either first second => do
      let s ← runTested fuel first s
      if s.flow == .next && s.status != 0 then run fuel last second s else return s
    | .negated body => do
      let s ← runTested fuel body s
      -- What a function returns is negated as well.
      if s.flow == .next || s.flow == .back then
        return { s with status := if s.status == 0 then 1 else 0 }
      else return s
    | .conditional condition body otherwise => do
      let s ← runTested fuel condition s
      if s.flow != .next then return s
      else if s.status == 0 then run fuel last body s
      else match otherwise with
        | .empty => return { s with status := 0 }
        | otherwise => run fuel last otherwise s
    | .whileLoop wanted condition body => do
      let s ← Program.iterate ({ s with loops := s.loops + 1 }, 0) fun (s, status) => do
        let s ← runTested fuel condition s
        let (leaving, s) := afterRound s
        if leaving || s.flow != .next then
          -- A loop that is left in its condition ends with the status of its last round.
          let gone := s.flow == .ending || s.flow == .back
          return .inr { s with status := if gone then s.status else status }
        else if (s.status == 0) != wanted then return .inr { s with status }
        else
          let s ← run fuel false body s
          let (leaving, s) := afterRound s
          if leaving then return .inr s else return .inl (s, s.status)
      return { s with loops := s.loops - 1 }
    | .forLoop name words body => do
      let (s, values) ← match words with
        | none => pure (s, some s.params)
        | some words => Expansion.fields (substitute fuel) s words []
      match values with
      | none => return s
      | some values =>
        let s := { s with loops := s.loops + 1, status := 0 }
        let s ← Program.iterate (s, values) fun (s, values) => do
          match values with
          | [] => return .inr s
          | v :: rest =>
            if s.isFixed name then return .inr (← giveUp s (name ++ raw ": is read only"))
            else
              let s ← run fuel false body (s.assign name v)
              let (leaving, s) := afterRound s
              if leaving then return .inr s else return .inl (s, rest)
        return { s with loops := s.loops - 1 }
    | .choice line w items => do
      let s := { s with line }
      let (s, text) ← Expansion.single (substitute fuel) s w
      match text with
      | none => return s
      | some text => chooseItem fuel last text items { s with status := 0 }
    | .function name body =>
      return { s with functions := (name, body) :: s.functions.filter (·.1 != name), status := 0 }
    | .redirected line body redirects => do
      let s := { s with line }
      let (s, saved, trouble) ← redirectAll (substitute fuel) s [] true redirects
      match trouble with
      | some message =>
        complain s message
        restore saved
        return checked { s with status := 2 }
      | none =>
        if s.flow == .ending then
          restore saved
          return s
        else
          let s ← run fuel false body s
          restore saved
          return s
    | .subshell body => do
      -- The shell itself can stand for the copy, since nothing comes after it.
      if last && !hasTraps s then
        finishShell fuel (← run fuel true body (copyOf s))
        return s
      else
        let (s, pid) ← forkRunning fuel body s
        match pid with
        | none => return s
        | some pid =>
          let status ← awaitForeground pid
          return checked { s with status }
    | .background body => do
      let child : Program Unit := do
        -- Nobody at the terminal means a command in the background.
        let _ ← Program.request (.setDisposition 2 .ignored)
        let _ ← Program.request (.setDisposition 3 .ignored)
        let _ ← Program.request (.close 0)
        let _ ← Program.request (.openFile (raw "/dev/null") { read := true })
        untrap s.traps
        finishShell fuel (← run fuel true body (copyOf s))
      .fork child fun
        | .error _ => giveUp s (raw "Cannot fork")
        | .ok pid => return { s with lastJob := some pid, jobs := s.jobs ++ [pid], status := 0 }
    | .pipeline commands => do
      let (s, pids) ← startPipeline fuel s none [] commands
      let status ← awaitPipeline s.status pids
      return checked { s with status }
    | .simple line assignments words redirects => do
      let s := { s with line, substituted := none }
      let (s, args) ← Expansion.fields (substitute fuel) s words []
      match args with
      | none => return s
      | some args => runSimple fuel last assignments args redirects s

/-- Runs a command whose failure is looked at. -/
def runTested (fuel : Nat) (c : Command) (s : State) : Program State :=
  match fuel with
  | 0 => giveUp s (raw "nested too deeply")
  | fuel + 1 => do
    let s' ← run fuel false c { s with tested := true }
    return { s' with tested := s.tested }

/-- Runs the item of a choice that the text fits first. -/
def chooseItem (fuel : Nat) (last : Bool) (text : Bytes) (items : List (List Word × Command))
    (s : State) :
    Program State :=
  match fuel with
  | 0 => giveUp s (raw "nested too deeply")
  | fuel + 1 =>
    match items with
    | [] => return s
    | (patterns, body) :: rest => do
      let (s, fits) ← anyFits fuel text patterns s
      if s.flow != .next then return s
      else if fits then run fuel last body s
      else chooseItem fuel last text rest s

/-- Whether a text fits one of some patterns. -/
def anyFits (fuel : Nat) (text : Bytes) (patterns : List Word) (s : State) :
    Program (State × Bool) :=
  match fuel with
  | 0 => return (s, false)
  | fuel + 1 =>
    match patterns with
    | [] => return (s, false)
    | w :: rest => do
      let (s, pattern) ← Expansion.pattern (substitute fuel) s w
      match pattern with
      | none => return (s, false)
      | some pattern =>
        if Glob.isMatch pattern text then return (s, true) else anyFits fuel text rest s

/-- Forks a copy of the shell that runs a command. -/
def forkRunning (fuel : Nat) (body : Command) (s : State) : Program (State × Option Pid) :=
  match fuel with
  | 0 => do return (← giveUp s (raw "nested too deeply"), none)
  | fuel + 1 => do
    let child : Program Unit := do
      untrap s.traps
      finishShell fuel (← run fuel true body (copyOf s))
    .fork child fun
      | .error _ => do return (← giveUp s (raw "Cannot fork"), none)
      | .ok pid => return (s, some pid)

/-- Starts the commands of a pipeline; `input` is what the next one reads from. -/
def startPipeline (fuel : Nat) (s : State) (input : Option Fd) (pids : List Pid)
    (commands : List Command) :
    Program (State × List Pid) :=
  match fuel with
  | 0 => do return (← giveUp s (raw "nested too deeply"), pids)
  | fuel + 1 =>
    match commands with
    | [] => return (s, pids)
    | c :: rest => do
      let output ← if rest.isEmpty then pure none
        else do
          match ← Program.request (.pipe false) with
          | .ok ends => pure (some ends)
          | .error _ => pure none
      let child : Program Unit := do
        match output with
        | some (readEnd, writeEnd) =>
          let _ ← Program.request (.close readEnd)
          let _ ← Program.request (.duplicateOnto writeEnd 1)
          if writeEnd != 1 then
            let _ ← Program.request (.close writeEnd)
        | none => pure ()
        match input with
        | some fd =>
          let _ ← Program.request (.duplicateOnto fd 0)
          if fd != 0 then
            let _ ← Program.request (.close fd)
        | none => pure ()
        untrap s.traps
        finishShell fuel (← run fuel true c (copyOf s))
      .fork child fun
        | .error _ => do return (← giveUp s (raw "Cannot fork"), pids)
        | .ok pid => do
          match input with
          | some fd =>
            let _ ← Program.request (.close fd)
          | none => pure ()
          match output with
          | some (readEnd, writeEnd) =>
            let _ ← Program.request (.close writeEnd)
            startPipeline fuel s (some readEnd) (pids ++ [pid]) rest
          | none => startPipeline fuel s none (pids ++ [pid]) rest

/-- Runs a command whose words were expanded. -/
def runSimple (fuel : Nat) (last : Bool) (assignments : List (Bytes × Word)) (args : List Bytes)
    (redirects : List Redirect) (s : State) : Program State :=
  match fuel with
  | 0 => giveUp s (raw "nested too deeply")
  | fuel + 1 => do
    let name := args.headD []
    let isFunction := s.functions.any (·.1 == name)
    let isSpecial := !isFunction && Builtin.special.any fun n => raw n == name
    let isExec := !isFunction && name == raw "exec"
    let (s, saved, trouble) ← redirectAll (substitute fuel) s [] (!isExec) redirects
    match trouble with
    | some message =>
      complain s message
      restore saved
      let s := { s with status := 2 }
      return if isSpecial then { s with flow := .ending } else checked s
    | none =>
      if s.flow == .ending then
        restore saved
        return s
      else if args.isEmpty then
        let (s, fine) ← assignAll (substitute fuel) s false assignments
        if fine then traces s assignments []
        restore saved
        return checked { s with status := if fine then s.substituted.getD 0 else s.status }
      else
        -- Variables given to a command are put back after it, unless it is special.
        let old := assignments.map fun (n, _) => (n, s.binding? n)
        let (s, fine) ← assignAll (substitute fuel) s (!isSpecial) assignments
        if !fine then
          restore saved
          return s
        else
          traces s assignments args
          let s ← runNamed fuel last name args s
          restore saved
          let s := if isSpecial then s else putBack s old
          return checked s

/-- Runs a command by its name. -/
def runNamed (fuel : Nat) (last : Bool) (name : Bytes) (args : List Bytes) (s : State) :
    Program State :=
  match fuel with
  | 0 => giveUp s (raw "nested too deeply")
  | fuel + 1 => do
    let rest := args.drop 1
    match (s.functions.find? (·.1 == name)).map (·.2) with
    | some body =>
      let inner :=
        { s with params := rest, calls := s.calls + 1, locals := [] :: s.locals, loops := 0 }
      let done ← run fuel false body inner
      let done := putBack done (done.locals.headD [])
      return { done with
        params := s.params, calls := s.calls, locals := s.locals, loops := s.loops
        -- Neither a return nor leaving a loop reaches beyond the function.
        flow := if done.flow == .ending then .ending else .next }
    | none =>
      match (Builtin.table.find? fun (n, _) => raw n == name).map (·.2) with
      | some builtin =>
        let s ← builtin { s with running := some name } rest
        return { s with running := none }
      | none =>
        if name == raw "eval" then runText fuel last (joined rest) { s with status := 0 }
        else if name == raw "." then
          match rest with
          | [] => return Builtin.ends s 0
          | file :: _ => runFile fuel file s
        else if name == raw "trap" then
          let s ← trap { s with running := some name } rest
          return { s with running := none }
        else if name == raw "exec" then
          match rest with
          | [] => return Builtin.ends s 0
          | rest =>
            untrap s.traps
            becomeNamed { s with running := some name } rest s.environment
            return s
        else if name == raw "command" then
          match rest with
          | [] => return Builtin.ends s 0
          | first :: more =>
            if first == raw "-p" then runNamed fuel last name (name :: more) s
            else if first == raw "-v" then describeCommand fuel false s (more.headD [])
            else if first == raw "-V" then describeCommand fuel true s (more.headD [])
            else
              runNamed fuel last first rest
                { s with functions := s.functions.filter (·.1 != first) }
        else if name == raw "type" then describeCommands fuel { s with status := 0 } rest
        else if last && !hasTraps s then
          becomeNamed s args s.environment
          return s
        else
          let found ← if name.contains 0x2F then pure (Except.ok name)
            else findProgram name .ENOENT (searchPlaces s)
          match found with
          | .error reason =>
            let (status, message) := unrunnable name reason
            complain s message
            return Builtin.ends s status
          | .ok _ =>
            let child : Program Unit := do
              untrap s.traps
              becomeNamed s args s.environment
            .fork child fun
              | .error _ => giveUp s (raw "Cannot fork")
              | .ok pid => do return Builtin.ends s (← awaitForeground pid)

/-- Says what names stand for as commands. -/
def describeCommands (fuel : Nat) (s : State) (names : List Bytes) : Program State :=
  match fuel, names with
  | 0, _ => return s
  | _, [] => return s
  | fuel + 1, name :: rest => do
    let t ← describeCommand fuel true s name
    describeCommands fuel (if t.status == 0 then s else t) rest

/-- Says what a name stands for as a command, in a sentence or by what would be run. -/
def describeCommand (fuel : Nat) (sentence : Bool) (s : State) (name : Bytes) : Program State :=
  match fuel with
  | 0 => return s
  | _ + 1 => do
    let tells (what : String) : Program State :=
      Builtin.prints s (if sentence then name ++ raw (" is " ++ what ++ "\n") else name ++ [10])
    if keywords.any (fun k => raw k == name) then tells "a shell keyword"
    else if s.functions.any (·.1 == name) then tells "a shell function"
    else if Builtin.special.any (fun n => raw n == name) then tells "a special shell builtin"
    else if Builtin.table.any (fun (n, _) => raw n == name) || name == raw "command" ||
      name == raw "type" then
      tells "a shell builtin"
    else
      let found ← if name.contains 0x2F then do
          pure ((← Program.request (.fileInfo name true)).map fun _ => name)
        else findProgram name .ENOENT (searchPlaces s)
      match found with
      | .ok path =>
        Builtin.prints s (if sentence then name ++ raw " is " ++ path ++ [10] else path ++ [10])
      | .error _ =>
        if sentence then
          let _ ← Builtin.prints s (name ++ raw ": not found\n")
        return Builtin.ends s 127

/-- Runs a command and collects what it writes. -/
def substitute (fuel : Nat) (body : Command) (s : State) : Program (Bytes × State) :=
  match fuel with
  | 0 => do return ([], ← giveUp s (raw "nested too deeply"))
  | fuel + 1 => do
    match body with
    -- Nothing needs to be forked for nothing.
    | .empty => return ([], { s with substituted := some 0 })
    | body =>
      match ← Program.request (.pipe false) with
      | .error _ => return ([], ← giveUp s (raw "Pipe call failed"))
      | .ok (readEnd, writeEnd) =>
        let child : Program Unit := do
          let _ ← Program.request (.close readEnd)
          let _ ← Program.request (.duplicateOnto writeEnd 1)
          if writeEnd != 1 then
            let _ ← Program.request (.close writeEnd)
          untrap s.traps
          finishShell fuel (← run fuel true body (copyOf s))
        .fork child fun
          | .error _ => do return ([], ← giveUp s (raw "Cannot fork"))
          | .ok pid => do
            let _ ← Program.request (.close writeEnd)
            let out ← readAll readEnd
            let _ ← Program.request (.close readEnd)
            let status ← awaitForeground pid
            return (out, { s with substituted := some status, status })

/-- Runs a text as commands. -/
def runText (fuel : Nat) (last : Bool) (text : Bytes) (s : State) : Program State :=
  match fuel with
  | 0 => giveUp s (raw "nested too deeply")
  | fuel + 1 => runLines fuel last { rest := text, line := 1 } s

/-- Runs the commands that are left to read, one after the other. -/
def runLines (fuel : Nat) (last : Bool) (reader : Reader) (s : State) : Program State :=
  match fuel with
  | 0 => giveUp s (raw "nested too deeply")
  | fuel + 1 =>
    let reader := { reader with documents := s.documents, nextDocument := s.documents.length }
    Program.iterate (s, reader) fun (s, reader) => do
      match completeCommand.run reader with
      | .error (.wrong line message) =>
        return .inr (← giveUp { s with line } message)
      | .error .incomplete => return .inr s
      | .ok (none, _) => return .inr s
      | .ok (some c, reader) =>
        -- The last command of the text may take the place of the shell.
        let atEnd := reader.peeked matches some .eof
        let s := { s with documents := reader.documents }
        let s ← run fuel (last && atEnd) c s
        if s.flow == .next then return .inl (s, { reader with peeked := none }) else return .inr s

/-- Runs the commands in a file. -/
def runFile (fuel : Nat) (file : Bytes) (s : State) : Program State :=
  match fuel with
  | 0 => giveUp s (raw "nested too deeply")
  | fuel + 1 => do
    let found ←
      if file.contains 0x2F then pure (some file) else readableIn fuel file (searchPlaces s)
    let opened ← match found with
      | none => pure (Except.error Errno.ENOENT)
      | some path => Program.request (.openFile path { read := true, cloexec := true })
    match opened with
    | .error reason =>
      giveUp { s with running := some (raw ".") }
        (if file.contains 0x2F then cannot "open" file "No such file" reason
        else file ++ raw ": not found")
    | .ok fd =>
      let text ← readAll fd
      let _ ← Program.request (.close fd)
      let s ← runText fuel false text { s with status := 0 }
      return { s with flow := if s.flow == .back then .next else s.flow }

/-- The first place that has a readable file of a name. -/
def readableIn (fuel : Nat) (name : Bytes) (places : List Bytes) : Program (Option Bytes) :=
  match fuel, places with
  | 0, _ => return none
  | _, [] => return none
  | fuel + 1, directory :: rest => do
    match ← Program.request (.mayAccess (within directory name) 4) with
    | .ok () => return some (within directory name)
    | .error _ => readableIn fuel name rest

/-- Runs what is trapped on the signals that have arrived. -/
def runTraps (fuel : Nat) (s : State) : Program State :=
  match fuel with
  | 0 => return s
  | fuel + 1 => do
    if !s.traps.any (fun (n, text) => n != 0 && !text.isEmpty) then return s
    else runActions fuel s (← Program.request .takeSignals)

/-- Runs what is trapped on signals. -/
def runActions (fuel : Nat) (s : State) (signals : List Signal) : Program State :=
  match fuel, signals with
  | 0, _ => return s
  | _, [] => return s
  | fuel + 1, n :: rest => do
    match (s.traps.find? (·.1 == n)).map (·.2) with
    | none => runActions fuel s rest
    | some text =>
      let flow := s.flow
      let t ← runText fuel false text { s with flow := .next }
      if t.flow == .ending || t.flow == .back then return t
      -- A trap leaves no trace in the status of what it interrupted.
      else runActions fuel { t with status := s.status, flow } rest

/-- Ends the shell, after what is trapped on its end. -/
def finishShell (fuel : Nat) (s : State) : Program Unit :=
  match fuel with
  | 0 => Program.exit s.status
  | fuel + 1 => do
    match (s.traps.find? (·.1 == 0)).map (·.2) with
    | none => Program.exit s.status
    | some text =>
      let t ← runText fuel false text { s with flow := .next, traps := s.traps.filter (·.1 != 0) }
      Program.exit (if t.flow == .ending then t.status else s.status)

end

end Coprocess.Shell
