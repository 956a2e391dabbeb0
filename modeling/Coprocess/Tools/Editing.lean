import Coprocess.Tools.Regex
import Coprocess.Tools.Tool

/-!
# Editing lines

`sed` runs a script for each line of its inputs and prints what the script makes of it.  A script is
a list of commands, each for the lines that it is addressed to; a block is a command that says how
many of the following ones are in it.
-/

namespace Coprocess.Tools

open Host Shell

/-! ### Scripts -/

/-- What a line is addressed by. -/
inductive Address where
  | line (n : Nat)
  | last
  | holding (r : Regex)

/-- The lines that a command is for. -/
structure Selector where
  first : Option Address := none
  /-- The end of a range that begins with the first address. -/
  final : Option Address := none
  negated : Bool := false

/-- A part of a replacement: bytes, or the text of a group, of which number 0 is the whole match. -/
inductive Replacement where
  | bytes (text : Bytes)
  | group (n : Nat)

/-- What a command does. -/
inductive Edit where
  | substitute (r : Regex) (by_ : List Replacement) (nth : Nat) (all shown : Bool)
  | exchangeBytes (source target : Bytes)
  | print
  | number
  | delete
  | quit (silently : Bool)
  | append (text : Bytes)
  | insert (text : Bytes)
  | change (text : Bytes)
  /-- Puts the line aside, behind what is there already if asked to. -/
  | keep (behind : Bool)
  /-- Takes back what was put aside, behind the line if asked to. -/
  | bring (behind : Bool)
  | swap
  /-- A block of so many commands. -/
  | block (size : Nat)
  | nothing

/-- A script. -/
abbrev Script := List (Selector × Edit)

namespace Script

/-- Drops blanks. -/
def dropBlanks (text : Bytes) : Bytes := text.dropWhile fun c => c == 32 || c == 9

/-- The text up to a delimiter that is not protected, and what follows it; a protected delimiter
stands for itself. -/
def delimited (delimiter : UInt8) (acc : Bytes) : Bytes → Option (Bytes × Bytes)
  | [] => none
  | 0x5C :: c :: rest =>
    if c == delimiter then delimited delimiter (c :: acc) rest
    else delimited delimiter (c :: 0x5C :: acc) rest
  | c :: rest =>
    if c == delimiter then some (acc.reverse, rest) else delimited delimiter (c :: acc) rest

/-- Reads an address if there is one. -/
def address (extended : Bool) (text : Bytes) : Option (Option Address × Bytes) :=
  match text with
  | 0x24 :: rest => some (some .last, rest)
  | 0x2F :: rest => do
    let (pattern, rest) ← delimited 0x2F [] rest
    let r ← Regex.ofText? extended pattern
    return (some (.holding r), rest)
  | text =>
    let ds := text.takeWhile isDigit
    if ds.isEmpty then some (none, text) else some (some (.line (decimal ds)), text.drop ds.length)

/-- Reads a selector. -/
def selector (extended : Bool) (text : Bytes) : Option (Selector × Bytes) := do
  let (first, rest) ← address extended text
  let (final, rest) ← match dropBlanks rest with
    | 0x2C :: rest => if first.isNone then none else address extended (dropBlanks rest)
    | rest => some (none, rest)
  let rest := dropBlanks rest
  let negated := rest.head? == some 0x21
  return ({ first, final, negated }, dropBlanks (rest.dropWhile (· == 0x21)))

/-- The parts of a replacement. -/
def replacement (acc : Bytes) : Bytes → List Replacement
  | [] => [.bytes acc.reverse]
  | 0x5C :: c :: rest =>
    if isDigit c then .bytes acc.reverse :: .group (c.toNat - 48) :: replacement [] rest
    else if c == 0x6E then replacement (10 :: acc) rest
    else if c == 0x74 then replacement (9 :: acc) rest
    else replacement (c :: acc) rest
  | 0x26 :: rest => .bytes acc.reverse :: .group 0 :: replacement [] rest
  | c :: rest => replacement (c :: acc) rest

/-- Whether a byte ends a command. -/
def endsCommand (c : UInt8) : Bool := c == 10 || c == 0x3B || c == 0x7D || c == 0x23

/-- The text that a command prints, up to the end of its line. -/
def printedText (text : Bytes) : Bytes × Bytes :=
  let body := match dropBlanks text with
    | 0x5C :: 10 :: rest => rest
    | 0x5C :: rest => dropBlanks rest
    | rest => rest
  let rec go (acc : Bytes) : Bytes → Bytes × Bytes
    | [] => (acc.reverse, [])
    | 0x5C :: c :: rest => go (c :: acc) rest
    | c :: rest => if c == 10 then (acc.reverse, rest) else go (c :: acc) rest
  go [] body

/-- Reads what a command does. -/
def edit (extended : Bool) (text : Bytes) : Option (Edit × Bytes) :=
  match text with
  | [] => none
  | c :: rest =>
    match (raw "pdqQ=hHgGx").idxOf? c with
    | some n =>
      some (([.print, .delete, .quit false, .quit true, .number, .keep false, .keep true,
        .bring false, .bring true,
        .swap] : List Edit).getD n .nothing, rest)
    | none =>
      if c == 0x73 then
        match rest with
        | [] => none
        | delimiter :: rest => do
          let (pattern, rest) ← delimited delimiter [] rest
          let (by_, rest) ← delimited delimiter [] rest
          let flags := rest.takeWhile fun d => isDigit d || (raw "gpiI").contains d
          let r ← Regex.ofText? extended pattern
          let r := if flags.contains 0x69 || flags.contains 0x49 then r.folded else r
          let nth := decimal (flags.filter isDigit)
          return (.substitute r (replacement [] by_) (max nth 1) (flags.contains 0x67)
            (flags.contains 0x70),
            rest.drop flags.length)
      else if c == 0x79 then
        match rest with
        | [] => none
        | delimiter :: rest => do
          let (source, rest) ← delimited delimiter [] rest
          let (target, rest) ← delimited delimiter [] rest
          if source.length == target.length then return (.exchangeBytes source target, rest)
          else none
      else if c == 0x61 || c == 0x69 || c == 0x63 then
        let (text, rest) := printedText rest
        some (if c == 0x61 then .append text else if c == 0x69 then .insert text else .change text,
          rest)
      else none

/-- Reads commands up to the end of the text or of a block. -/
def commands (extended : Bool) (inBlock : Bool) (acc : Script) :
    Nat → Bytes → Option (Script × Bytes)
  | 0, _ => none
  | fuel + 1, text =>
    match text.dropWhile fun c => c == 32 || c == 9 || c == 10 || c == 0x3B with
    | [] => if inBlock then none else some (acc.reverse, [])
    | 0x23 :: rest => commands extended inBlock acc fuel (rest.dropWhile (· != 10))
    | 0x7D :: rest => if inBlock then some (acc.reverse, rest) else none
    | text => do
      let (s, rest) ← selector extended text
      match rest with
      | 0x7B :: rest =>
        let (body, rest) ← commands extended true [] fuel rest
        commands extended inBlock (body.reverse ++ (s, .block body.length) :: acc) fuel rest
      | rest =>
        let (e, rest) ← edit extended rest
        let ended := match e with
          | .append _ | .insert _ | .change _ => true
          | _ => (dropBlanks rest).head?.all endsCommand
        if ended then commands extended inBlock ((s, e) :: acc) fuel rest else none

/-- The script that a text stands for. -/
def ofText? (extended : Bool) (text : Bytes) : Option Script :=
  (commands extended false [] (2 * text.length + 2) text).map (·.1)

/-- Whether a script asks for the last line. -/
def asksForLast (s : Script) : Bool :=
  s.any fun (sel, _) => [sel.first, sel.final].any fun
    | some .last => true
    | _ => false

end Script

/-! ### Running -/

/-- What an editor knows between commands. -/
structure Editor where
  number : Nat := 0
  line : Bytes := []
  aside : Bytes := []
  /-- The commands whose ranges have begun, by their places in the script. -/
  begun : List Nat := []
  /-- What is printed, last first, and what is printed after the line. -/
  out : List Bytes := []
  after : List Bytes := []
  deleted : Bool := false
  finished : Bool := false

namespace Editor

/-- Whether an address is that of the line at hand. -/
def isAt (ed : Editor) (isLast : Bool) : Address → Bool
  | .line n => ed.number == n
  | .last => isLast
  | .holding r => (r.find ed.line).isSome

/-- Whether a command is for the line at hand; its place in the script tells its range from
others. -/
def selects (ed : Editor) (isLast : Bool) (place : Nat) (s : Selector) : Editor × Bool :=
  let (ed, hit) := match s.first, s.final with
    | none, _ => (ed, true)
    | some a, none => (ed, ed.isAt isLast a)
    | some a, some z =>
      if ed.begun.contains place then
        let ended : Bool := match z with
          | .line n => n ≤ ed.number
          | z => ed.isAt isLast z
        let inside : Bool := match z with
          | .line n => ed.number ≤ n
          | _ => true
        (if ended then { ed with begun := ed.begun.filter (· != place) } else ed, inside)
      else if ed.isAt isLast a then
        let single : Bool := match z with
          | .line n => n ≤ ed.number
          | .last => isLast
          | _ => false
        (if single then ed else { ed with begun := place :: ed.begun }, true)
      else (ed, false)
  (ed, hit != s.negated)

/-- The text of a replacement for a match. -/
def replaced (m : Regex.Match) (by_ : List Replacement) : Bytes :=
  by_.flatMap fun
    | .bytes text => text
    | .group 0 => m.text
    | .group n => ((m.groups.find? (·.1 == n)).map (·.2)).getD []

/-- A text with matches replaced from the `nth` on, all of them or one; `none` if there is none. -/
def substitute (r : Regex) (by_ : List Replacement) (all : Bool) (whole : Nat) (matchedEnd : Bool) :
    Nat → Nat → Bytes → Option Bytes
  | 0, _, _ => none
  | fuel + 1, nth, rest =>
    match Regex.findFrom whole r [] rest with
    | none => none
    | some m =>
      if m.text.isEmpty && m.before.isEmpty && matchedEnd then
        match rest with
        | [] => none
        | c :: rest => (substitute r by_ all whole false fuel nth rest).map (c :: ·)
      else
        let here := if nth ≤ 1 then some (replaced m by_) else none
        let goOn := all || 1 < nth
        let more : Option Bytes :=
          if !goOn then none
          else if m.text.isEmpty then
            match m.after with
            | [] => none
            | c :: after =>
              some (c :: (substitute r by_ all whole false fuel (nth - 1) after).getD after)
          else substitute r by_ all whole true fuel (nth - 1) m.after
        match here with
        | some text => some (m.before ++ text ++ more.getD m.after)
        | none =>
          if m.text.isEmpty then
            match m.after with
            | [] => none
            | c :: after =>
              (substitute r by_ all whole false fuel (nth - 1) after).map
                fun t => m.before ++ c :: t
          else more.map fun t => m.before ++ m.text ++ t

/-- Carries out what a command does. -/
def apply (ed : Editor) : Edit → Editor
  | .substitute r by_ nth all shown =>
    match substitute r by_ all ed.line.length false (2 * ed.line.length + 2) nth ed.line with
    | some line => { ed with line, out := if shown then line :: ed.out else ed.out }
    | none => ed
  | .exchangeBytes source target =>
    { ed with line := ed.line.map fun c => ((source.idxOf? c).map fun n => target.getD n c).getD c }
  | .print => { ed with out := ed.line :: ed.out }
  | .number => { ed with out := digits ed.number :: ed.out }
  | .delete => { ed with deleted := true }
  | .quit silently => { ed with deleted := silently, finished := true }
  | .append text => { ed with after := text :: ed.after }
  | .insert text => { ed with out := text :: ed.out }
  | .change text => { ed with out := text :: ed.out, deleted := true }
  | .keep behind => { ed with aside := if behind then ed.aside ++ 10 :: ed.line else ed.line }
  | .bring behind => { ed with line := if behind then ed.line ++ 10 :: ed.aside else ed.aside }
  | .swap => { ed with line := ed.aside, aside := ed.line }
  | .block _ | .nothing => ed

/-- Runs the commands from a place of the script on. -/
def runFrom (isLast : Bool) (ed : Editor) (place skip : Nat) : Script → Editor
  | [] => ed
  | (s, e) :: rest =>
    if 0 < skip then runFrom isLast ed (place + 1) (skip - 1) rest
    else
      let (ed, hit) := ed.selects isLast place s
      match e with
      | .block size => runFrom isLast ed (place + 1) (if hit then 0 else size) rest
      | e =>
        let ed := if hit then ed.apply e else ed
        if ed.deleted || ed.finished then ed else runFrom isLast ed (place + 1) 0 rest

/-- Runs a script for a line; what is printed lacks a last end of line if the line does. -/
def edited (quiet : Bool) (script : Script) (isLast : Bool) (ed : Editor) (line : Bytes) :
    Editor × Bytes :=
  let body := line.takeWhile (· != 10)
  let ed :=
    { ed with number := ed.number + 1, line := body, out := [], after := [], deleted := false }
  let ed := runFrom isLast ed 0 0 script
  let shown := if quiet || ed.deleted then ed.out else ed.line :: ed.out
  let lines := (ed.after ++ shown).reverse
  (ed, if body.length < line.length then lines.flatMap (· ++ [10]) else [10].intercalate lines)

end Editor

/-- A filter that runs a script; if the script asks for the last line, a line has to wait for the
next. -/
def editing (quiet : Bool) (script : Script) : Filter ((Editor × Option Bytes) × Bytes) :=
  let waits := script.asksForLast
  Filter.ofLines ({}, none) (fun (ed, waiting) line =>
    if waits then
      match waiting with
      | none => ((ed, some line), [], false)
      | some before =>
        let (ed, out) := ed.edited quiet script false before
        ((ed, some line), out, ed.finished)
    else
      let (ed, out) := ed.edited quiet script false line
      ((ed, none), out, ed.finished)) fun (ed, waiting) =>
        match waiting with
        | some line => if ed.finished then [] else (ed.edited quiet script true line).2
        | none => []

/-- Edits the lines of its inputs by a script. -/
def sed : Tool := fun argv _ =>
  let rec read (quiet extended : Bool) (texts names : List Bytes) :
      Nat → List Bytes → Bool × Bool × List Bytes × List Bytes
    | 0, _ | _, [] => (quiet, extended, texts.reverse, names.reverse)
    | fuel + 1, arg :: rest =>
      if arg == raw "-e" then read quiet extended (rest.headD [] :: texts) names fuel (rest.drop 1)
      else match arg with
        | 0x2D :: c :: letters =>
          let letters := c :: letters
          if letters.getLast? == some 0x65 then
            read (quiet || letters.contains 0x6E)
              (extended || letters.contains 0x45 || letters.contains 0x72)
              (rest.headD [] :: texts) names fuel (rest.drop 1)
          else
            read (quiet || letters.contains 0x6E)
              (extended || letters.contains 0x45 || letters.contains 0x72) texts names fuel rest
        | name => read quiet extended texts (name :: names) fuel rest
  let (quiet, extended, texts, names) := read false false [] [] argv.length (argv.drop 1)
  let (texts, names) := if texts.isEmpty then (names.take 1, names.drop 1) else (texts, names)
  if texts.isEmpty then Tool.complains argv (raw "no script specified")
  else
    match Script.ofText? extended (([10] : Bytes).intercalate texts) with
    | none => Tool.complains argv (raw "-e expression #1, char 1: unknown command")
    | some script => do
      let status ← Tool.filter argv (raw "can't read " ++ ·) names (editing quiet script)
      return if status == 0 then 0 else 2

end Coprocess.Tools
