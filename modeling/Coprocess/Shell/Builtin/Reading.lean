import Coprocess.Shell.Builtin

/-!
# Builtins that read

Lines of the standard input become the values of variables, and so do the options among arguments.
-/

namespace Coprocess.Shell

open Host Tools

namespace Builtin

/-- Reads a line byte by byte; a backslash protects the next byte unless it is raw.  The marks say
which bytes were protected. -/
def readLine (plain : Bool) : Program (Option (List Mark) × Bool) :=
  Program.iterate (([] : List Mark), false) fun (acc, protectedNext) => do
    match ← Program.request (.read 0 1) with
    | .error _ => return .inr (some acc.reverse, false)
    | .ok [] => return .inr (some acc.reverse, false)
    | .ok (c :: _) =>
      if protectedNext then
        return .inl (if c == 10 then acc else .byte c .quoted :: acc, false)
      else if c == 0x5C && !plain then return .inl (acc, true)
      else if c == 10 then return .inr (some acc.reverse, true)
      else if c == 0 then return .inl (acc, false)
      else return .inl (.byte c .expanded :: acc, false)

/-- Assigns the fields of a line to names; the last name gets all that is left. -/
def assignFields (s : State) (separators : Bytes) : List Bytes → List Mark → State
  | [], _ => s
  | [name], marks =>
    let isSpace (m : Mark) : Bool := match m with
      | .byte c .expanded => separators.contains c && Expansion.isBlank c
      | _ => false
    let trimmed := (marks.dropWhile isSpace).reverse.dropWhile isSpace |>.reverse
    let trimmed := match (Expansion.split separators trimmed), trimmed.getLast? with
      | [_], some (.byte c .expanded) => if separators.contains c then trimmed.dropLast else trimmed
      | _, _ => trimmed
    s.assign name (Expansion.bytesOf trimmed)
  | name :: rest, marks =>
    let isSpace (m : Mark) : Bool := match m with
      | .byte c .expanded => separators.contains c && Expansion.isBlank c
      | _ => false
    let isSeparator (m : Mark) : Bool := match m with
      | .byte c .expanded => separators.contains c
      | _ => false
    let marks := marks.dropWhile isSpace
    let field := marks.takeWhile (!isSeparator ·)
    let after := (marks.drop field.length).dropWhile isSpace
    let after := match after with
      | m :: more => if isSeparator m then more.dropWhile isSpace else after
      | [] => []
    assignFields (s.assign name (Expansion.bytesOf field)) separators rest after

/-- Reads a line into variables. -/
def read : Builtin := fun s args => do
  let plain := args.any (· == raw "-r")
  let names := args.filter fun a => a != raw "-r"
  let names := match names with
    | dash :: _ :: rest => if dash == raw "-p" then rest else names
    | names => names
  if names.isEmpty then refuses s 2 (raw "arg count")
  else if let some bad := names.find? (!isName ·) then
    refuses s 2 (bad ++ raw ": bad variable name")
  else
    let (line, whole) ← readLine plain
    match line with
    | none => return ends s 1
    | some marks => return ends (assignFields s s.separators names marks) (if whole then 0 else 1)

/-- Reads the options of arguments one at a time. -/
def getopts : Builtin := fun s args =>
  match args with
  | optstring :: name :: rest => do
    let args := if rest.isEmpty then s.params else rest
    let index := ((s.value? (raw "OPTIND")).map decimal).getD 1
    let offset := ((s.value? (raw "OPTOFFSET")).map decimal).getD 0
    let quiet := optstring.head? == some 0x3A
    let exhausted (index : Nat) : Program State := do
      let s := (s.assign name (raw "?")).assign (raw "OPTIND") (digits index)
      return ends ((s.dropVariable (raw "OPTARG")).assign (raw "OPTOFFSET") (raw "0")) 1
    match args[index - 1]? with
    | none => exhausted index
    | some arg =>
      if offset == 0 && (arg.head? != some 0x2D || arg.length < 2) then exhausted index
      else if offset == 0 && arg == raw "--" then exhausted (index + 1)
      else
        let offset := if offset == 0 then 1 else offset
        let c := arg.getD offset 0
        let more := offset + 1 < arg.length
        let step (index offset : Nat) (s : State) : State :=
          (s.assign (raw "OPTIND") (digits index)).assign (raw "OPTOFFSET") (digits offset)
        let next (s : State) : State :=
          if more then step index (offset + 1) s else step (index + 1) 0 s
        match optstring.idxOf? c with
        | none =>
          let s := next (s.assign name (raw "?"))
          if quiet then return ends (s.assign (raw "OPTARG") [c]) 0
          else
            let _ ← writeAll 2 (raw "Illegal option -" ++ [c, 10])
            return ends (s.dropVariable (raw "OPTARG")) 0
        | some i =>
          if optstring.getD (i + 1) 0 != 0x3A || c == 0x3A then
            return ends (next ((s.assign name [c]).dropVariable (raw "OPTARG"))) 0
          else if more then
            let s := (s.assign name [c]).assign (raw "OPTARG") (arg.drop (offset + 1))
            return ends (step (index + 1) 0 s) 0
          else match args[index]? with
            | some value =>
              return ends (step (index + 2) 0 ((s.assign name [c]).assign (raw "OPTARG") value)) 0
            | none =>
              let s := step (index + 1) 0 s
              if quiet then return ends ((s.assign name (raw ":")).assign (raw "OPTARG") [c]) 0
              else
                let _ ← writeAll 2 (raw "No arg for -" ++ [c] ++ raw " option\n")
                return ends ((s.assign name (raw "?")).dropVariable (raw "OPTARG")) 0
  | _ => refuses s 2 (raw "Usage: getopts optstring var [arg]")

end Builtin

end Coprocess.Shell
