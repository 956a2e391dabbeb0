import Coprocess.Tools.Regex
import Coprocess.Tools.Printing
import Coprocess.Tools.Tool

/-!
# Searching lines

`grep` prints the lines of its inputs that hold a match of one of its patterns.
-/

namespace Coprocess.Tools

open Host Shell

/-- What a search is asked for. -/
structure SearchOrder where
  extended : Bool := false
  fixed : Bool := false
  folded : Bool := false
  inverted : Bool := false
  /-- A match has to be all of the line. -/
  wholeLine : Bool := false
  /-- A match must not lie inside of a word. -/
  wholeWord : Bool := false
  /-- Only matches are printed. -/
  onlyMatches : Bool := false
  numbered : Bool := false
  /-- Only the number of lines is printed. -/
  counted : Bool := false
  quiet : Bool := false
  /-- Only the names of inputs are printed. -/
  named : Bool := false
  titled : Option Bool := none
  silent : Bool := false
  most : Option Nat := none
  patterns : List Bytes := []
  inputs : List Bytes := []

namespace SearchOrder

/-- The order with an option letter taken in. -/
def takeLetter (o : SearchOrder) (c : UInt8) : SearchOrder :=
  if c == 0x45 then { o with extended := true } else if c == 0x46 then { o with fixed := true }
  else if c == 0x69 then { o with folded := true }
  else if c == 0x76 then { o with inverted := true }
  else if c == 0x78 then { o with wholeLine := true }
  else if c == 0x77 then { o with wholeWord := true }
  else if c == 0x6F then { o with onlyMatches := true }
  else if c == 0x6E then { o with numbered := true }
  else if c == 0x63 then { o with counted := true } else if c == 0x71 then { o with quiet := true }
  else if c == 0x6C then { o with named := true }
  else if c == 0x68 then { o with titled := some false }
  else if c == 0x48 then { o with titled := some true }
  else if c == 0x73 then { o with silent := true }
  else o

/-- The order that arguments state. -/
def ofArguments (o : SearchOrder) : Nat → List Bytes → SearchOrder
  | 0, _ | _, [] => finish o
  | fuel + 1, arg :: rest =>
    match arg with
    | 0x2D :: 0x2D :: name =>
      if name.isEmpty then finish { o with inputs := rest.reverse ++ o.inputs }
      else ofArguments o fuel rest
    | 0x2D :: 0x65 :: text =>
      if text.isEmpty then
        ofArguments { o with patterns := o.patterns ++ [rest.headD []] } fuel (rest.drop 1)
      else ofArguments { o with patterns := o.patterns ++ [text] } fuel rest
    | 0x2D :: 0x6D :: text =>
      if text.isEmpty then
        ofArguments { o with most := some (decimal (rest.headD [])) } fuel (rest.drop 1)
      else ofArguments { o with most := some (decimal text) } fuel rest
    | 0x2D :: c :: letters => ofArguments ((c :: letters).foldl takeLetter o) fuel rest
    | name => ofArguments { o with inputs := name :: o.inputs } fuel rest
where
  /-- Takes the first input for the pattern if there is none. -/
  finish (o : SearchOrder) : SearchOrder :=
    let inputs := o.inputs.reverse
    if o.patterns.isEmpty then { o with patterns := inputs.take 1, inputs := inputs.drop 1 }
    else { o with inputs }

/-- The expression that is searched for. -/
def expression? (o : SearchOrder) : Option Regex := do
  let all ← (o.patterns.flatMap (Bytes.splitOn 10)).mapM fun p =>
    if o.fixed then some (Regex.literally p) else Regex.ofText? o.extended p
  let r ← match all with
    | [] => none
    | r :: rest => some (rest.foldl .either r)
  let r := if o.folded then r.folded else r
  return if o.wholeLine then .both .lineStart (.both r .lineEnd) else r

/-- Whether a match lies between words. -/
def isWord (m : Regex.Match) : Bool :=
  !m.before.getLast?.any isNameByte && !m.after.head?.any isNameByte

/-- The matches in a line, from left to right. -/
def matchesFrom (o : SearchOrder) (r : Regex) (whole : Nat) : Nat → Bytes → Bytes → List Bytes
  | 0, _, _ => []
  | fuel + 1, before, rest =>
    match Regex.findFrom whole r before rest with
    | none => []
    | some m =>
      let counts := !o.wholeWord || isWord m
      let taken := if m.text.isEmpty then m.after.take 1 else m.text
      let more := if m.after.isEmpty then []
        else
          matchesFrom o r whole fuel (taken.reverse ++ m.before.reverse)
            (if m.text.isEmpty then m.after.drop 1 else m.after)
      if counts then m.text :: more else more

/-- The matches in a line. -/
def matchesIn (o : SearchOrder) (r : Regex) (line : Bytes) : List Bytes :=
  matchesFrom o r line.length (line.length + 1) [] line

/-- A filter that prints what is found, under a title; it keeps the number of the line and of lines
found. -/
def search (o : SearchOrder) (r : Regex) (title : Option Bytes) : Filter ((Nat × Nat) × Bytes) :=
  Filter.ofLines (1, 0) (fun (n, found) line =>
    let body := line.takeWhile (· != 10)
    let hits := o.matchesIn r body
    let isFound := hits.isEmpty == o.inverted
    let found := if isFound then found + 1 else found
    let front :=
      (title.map (· ++ raw ":")).getD [] ++ if o.numbered then digits n ++ raw ":" else []
    let out :=
      if !isFound || o.quiet || o.counted || o.named then []
      else if o.onlyMatches then
        (if o.inverted then [] else hits.filter (!·.isEmpty)).flatMap
          fun hit => front ++ hit ++ [10]
      else front ++ body ++ [10]
    let done := isFound && (o.quiet || o.named || o.most.any (· ≤ found))
    ((n + 1, found), out, done)) fun (_, found) =>
      if o.counted && !o.quiet then (title.map (· ++ raw ":")).getD [] ++ digits found ++ [10]
      else []

end SearchOrder

/-- Searches inputs, one after the other; yields whether something was found, and whether something
went wrong. -/
def searchAll (argv : List Bytes) (o : SearchOrder) (r : Regex) (titled live : Bool)
    (found wrong : Bool) :
    List Bytes → Program (Bool × Bool)
  | [] => return (found, wrong)
  | name :: rest => do
    match ← Tool.openInput name with
    | .error reason =>
      if !o.silent then
        let _ ← Tool.complains argv (name ++ raw (": " ++ reason.wording))
      searchAll argv o r titled live found true rest
    | .ok fd =>
      let shown := if name == raw "-" then raw "(standard input)" else name
      let f := o.search r (if titled then some shown else none)
      let (s, kept, ended) ← Tool.filterFrom argv f live fd f.start []
      let last := match ended with
        | .enough => if o.counted then f.finish (s.1, []) else []
        | _ => f.finish s
      let hits := s.1.2 + match ended with
        | .enough => 0
        | _ => if s.2.isEmpty then 0 else if (o.matchesIn r s.2).isEmpty == o.inverted then 1 else 0
      let named := if o.named && 0 < hits && !o.quiet then shown ++ [10] else []
      let status ← Tool.prints argv (kept ++ last ++ named)
      Tool.closeInput fd
      let wrongHere := match ended with
        | .unreadable _ | .unwritable _ => true
        | _ => status != 0
      let _ ← match ended with
        | .unreadable reason => Tool.complains argv (name ++ raw (": " ++ reason.wording))
        | _ => pure 0
      if o.quiet && 0 < hits then return (true, false)
      searchAll argv o r titled live (found || 0 < hits) (wrong || wrongHere) rest

/-- Prints the lines that hold a match, in a dialect of patterns. -/
def grepIn (order : SearchOrder) : Tool := fun argv _ => do
  let o := SearchOrder.ofArguments order argv.length (argv.drop 1)
  if o.patterns.isEmpty then
    let _ ← writeAll 2 (raw "Usage: grep [OPTION]... PATTERNS [FILE]...\nTry 'grep --help' for more information.\n")
    return 2
  else
    match o.expression? with
    | none => do
      let _ ← Tool.complains argv (raw "Invalid regular expression")
      return 2
    | some r => do
      let live := (← Program.request (.getModes 1)).isOk
      let inputs := Tool.inputsOf o.inputs
      let (found, wrong) ←
        searchAll argv o r (o.titled.getD (1 < inputs.length)) live false false inputs
      return if wrong then 2 else if found then 0 else 1

/-- Prints the lines that hold a match of a basic regular expression. -/
def grep : Tool := grepIn {}

end Coprocess.Tools
