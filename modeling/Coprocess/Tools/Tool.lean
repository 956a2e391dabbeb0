import Coprocess.Shell.State

/-!
# Tools

A tool is a program that is run with arguments and an environment and ends with a status.  Tools
name themselves in messages by their first argument.
-/

namespace Coprocess.Tools

open Host Shell

/-- What a tool does with its arguments and environment, and the status it ends with. -/
abbrev Tool := List Bytes → List Bytes → Program Nat

namespace Tool

/-- Writes a message of a tool, and yields the status for failure. -/
def complains (argv : List Bytes) (message : Bytes) : Program Nat := do
  let _ ← writeAll 2 (argv.headD [] ++ raw ": " ++ message ++ [10])
  return 1

/-- Writes a message about wrong arguments, and yields the given status. -/
def misused (argv : List Bytes) (message : Bytes) (status : Nat) : Program Nat := do
  let _ ← complains argv message
  let _ ← writeAll 2 (raw "Try '" ++ argv.headD [] ++ raw " --help' for more information.\n")
  return status

/-- Writes to the standard output, and yields the status. -/
def prints (argv : List Bytes) (text : Bytes) : Program Nat :=
  Program.iterate text fun text => do
    match text with
    | [] => return .inr 0
    | text =>
      match ← Program.request (.write 1 text) with
      | .ok n => return .inl (text.drop n)
      | .error reason =>
        if reason == .EINTR then return .inl text
        else return .inr (← complains argv (raw ("write error: " ++ reason.wording)))

/-- Reads all that comes from a descriptor. -/
def readAll (fd : Fd) : Program (Except Errno Bytes) :=
  Program.iterate ([] : List Bytes) fun chunks => do
    match ← Program.request (.read fd 65536) with
    | .ok [] => return .inr (.ok chunks.reverse.flatten)
    | .ok data => return .inl (data :: chunks)
    | .error reason => if reason == .EINTR then return .inl chunks else return .inr (.error reason)

/-- Opens an input by its name; a hyphen is the standard input. -/
def openInput (name : Bytes) : Program (Except Errno Fd) :=
  if name == raw "-" then return .ok 0 else Program.request (.openFile name { read := true })

/-- Closes an input. -/
def closeInput (fd : Fd) : Program Unit := do
  if fd != 0 then
    let _ ← Program.request (.close fd)

/-- The names of inputs; without any it is the standard input. -/
def inputsOf (names : List Bytes) : List Bytes := if names.isEmpty then [raw "-"] else names

/-- The contents of several inputs, those that cannot be read left out and told of.  `absent` says
how one is told of that cannot be opened. -/
def contents (argv : List Bytes) (absent : Bytes → Bytes) (status : Nat)
    (before : List (Bytes × Bytes)) :
    List Bytes → Program (Nat × List (Bytes × Bytes))
  | [] => return (status, before.reverse)
  | name :: rest => do
    match ← openInput name with
    | .error reason =>
      let status ← complains argv (absent name ++ raw (": " ++ reason.wording))
      contents argv absent status before rest
    | .ok fd =>
      let data ← readAll fd
      closeInput fd
      match data with
      | .ok data => contents argv absent status ((name, data) :: before) rest
      | .error reason =>
        let status ← complains argv (name ++ raw (": " ++ reason.wording))
        contents argv absent status before rest

/-- Makes a tool of what it prints for the contents of all its inputs. -/
def summary (argv : List Bytes) (absent : Bytes → Bytes) (inputs : List Bytes)
    (f : List Bytes → Bytes) : Program Nat := do
  let (status, found) ← contents argv absent 0 [] (inputsOf inputs)
  let printed ← prints argv (f (found.map (·.2)))
  return max status printed

/-- Carries out a request for each of several names, telling of those that fail. -/
def forEach (argv : List Bytes) (verb : String) (f : Bytes → Program (Except Errno Unit))
    (status : Nat) :
    List Bytes → Program Nat
  | [] => return status
  | name :: rest => do
    match ← f name with
    | .ok () => forEach argv verb f status rest
    | .error reason =>
      let status ← complains argv (raw (verb ++ " '") ++ name ++ raw ("': " ++ reason.wording))
      forEach argv verb f status rest

end Tool

/-- Splits arguments into the letters of their options and the rest. -/
def options (args : List Bytes) : Bytes × List Bytes :=
  let isOption (a : Bytes) : Bool := a.head? == some 0x2D && 1 < a.length && a != raw "--"
  let letters := ((args.takeWhile isOption).map (List.drop 1)).flatten
  let rest := args.dropWhile isOption
  (letters, if rest.head? == some (raw "--") then rest.drop 1 else rest)

/-- The lines of a text, each with its end; the last may lack it. -/
def linesOf (text : Bytes) : List Bytes :=
  let pieces := Bytes.splitOn 10 text
  (pieces.dropLast.map (· ++ [10])) ++ (pieces.getLast?.filter (!·.isEmpty)).toList

/-- A text whose last line has an end. -/
def completed (text : Bytes) : Bytes :=
  if text.isEmpty || text.getLast? == some 10 then text else text ++ [10]

/-! ### Filters -/

/-- A filter: what it makes of data as that comes. -/
structure Filter (σ : Type) where
  /-- What it knows at first. -/
  start : σ
  /-- What it knows after more data, what it prints for them, and whether that was enough. -/
  step : σ → Bytes → σ × Bytes × Bool
  /-- What it prints at the end. -/
  finish : σ → Bytes

namespace Filter

/-- A filter that keeps nothing in mind. -/
def ofMap (f : Bytes → Bytes) : Filter Unit := ⟨(), fun _ data => ((), f data, false), fun _ => []⟩

/-- Takes lines in until one is enough; what is printed comes last first. -/
def takeLines {σ : Type} (step : σ → Bytes → σ × Bytes × Bool) (s : σ) (out : List Bytes) :
    List Bytes → σ × List Bytes × Bool
  | [] => (s, out, false)
  | line :: rest =>
    match step s line with
    | (s, printed, true) => (s, printed :: out, true)
    | (s, printed, false) => takeLines step s (printed :: out) rest

/-- A filter that takes data line by line, the last line as it is. -/
def ofLines {σ : Type} (start : σ) (step : σ → Bytes → σ × Bytes × Bool) (finish : σ → Bytes) :
    Filter (σ × Bytes) where
  start := (start, [])
  step := fun (s, left) data =>
    let pieces := Bytes.splitOn 10 (left ++ data)
    let (s, out, enough) := takeLines step s [] (pieces.dropLast.map (· ++ [10]))
    ((s, if enough then [] else pieces.getLastD []), out.reverse.flatten, enough)
  finish := fun (s, left) =>
    if left.isEmpty then finish s
    else
      let (s, out, _) := step s left
      out ++ finish s

end Filter

/-- How a filter came to the end of an input. -/
inductive FilterEnd where
  | exhausted
  | enough
  | unreadable (reason : Errno)
  | unwritable (status : Nat)

namespace Tool

/-- How much a tool prints at once. -/
def blockSize : Nat := 4096

/-- Filters an input.  What is printed is kept back until there is a block of it, unless someone is
looking on. -/
def filterFrom {σ : Type} (argv : List Bytes) (f : Filter σ) (live : Bool) (fd : Fd) (s : σ)
    (kept : Bytes) :
    Program (σ × Bytes × FilterEnd) :=
  Program.iterate (s, kept) fun (s, kept) => do
    match ← Program.request (.read fd 65536) with
    | .error reason =>
      return if reason == .EINTR then .inl (s, kept) else .inr (s, kept, .unreadable reason)
    | .ok [] => return .inr (s, kept, .exhausted)
    | .ok data =>
      let (s, out, enough) := f.step s data
      let kept := kept ++ out
      let due := live || blockSize ≤ kept.length
      let status ← if due then prints argv kept else pure 0
      let kept := if due then [] else kept
      if status != 0 then return .inr (s, [], .unwritable status)
      else if enough then return .inr (s, kept, .enough)
      else return .inl (s, kept)

/-- Filters several inputs, one after the other. -/
def filterAll {σ : Type} (argv : List Bytes) (absent : Bytes → Bytes) (f : Filter σ) (live : Bool)
    (status : Nat)
    (s : σ) (kept : Bytes) : List Bytes → Program Nat
  | [] => do
    let printed ← prints argv (kept ++ f.finish s)
    return max status printed
  | name :: rest => do
    match ← openInput name with
    | .error reason =>
      let status ← complains argv (absent name ++ raw (": " ++ reason.wording))
      filterAll argv absent f live status s kept rest
    | .ok fd =>
      let (s, kept, ended) ← filterFrom argv f live fd s kept
      closeInput fd
      match ended with
      | .exhausted => filterAll argv absent f live status s kept rest
      | .enough =>
        let printed ← prints argv kept
        return max status printed
      | .unwritable status => return status
      | .unreadable reason =>
        let status ← complains argv (name ++ raw (": " ++ reason.wording))
        filterAll argv absent f live status s kept rest

/-- Makes a tool of a filter. -/
def filter {σ : Type} (argv : List Bytes) (absent : Bytes → Bytes) (inputs : List Bytes)
    (f : Filter σ) : Program Nat := do
  let live := (← Program.request (.getModes 1)).isOk
  filterAll argv absent f live 0 f.start [] (inputsOf inputs)

end Tool

end Coprocess.Tools
