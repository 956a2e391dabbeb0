import Coprocess.Shell.Pattern

/-!
# Regular expressions

The regular expressions that tools take, in the basic and in the extended notation.  A match begins
as far left as possible and is then as long as possible; the text of each group comes with it.
-/

namespace Coprocess.Tools

open Shell

/-- A regular expression. -/
inductive Regex where
  | empty
  /-- One byte that is in one of the ranges, or in none of them. -/
  | oneOf (negated : Bool) (ranges : List (UInt8 × UInt8))
  | lineStart
  | lineEnd
  | both (first second : Regex)
  | either (first second : Regex)
  | repeated (least : Nat) (most : Option Nat) (body : Regex)
  | group (number : Nat) (body : Regex)
  /-- The text of a group again. -/
  | again (number : Nat)
deriving Repr, Inhabited

namespace Regex

/-! ### Matching -/

/-- Where matching stands: what is left of the text, and the texts of groups, last first. -/
structure Standing where
  rest : Bytes
  groups : List (Nat × Bytes) := []

/-- All ways to repeat a step, the longest first; each round but the needed ones takes something. -/
def repeats (step : Standing → List Standing) : Nat → Nat → Option Nat → Standing → List Standing
  | 0, _, _, s => [s]
  | fuel + 1, least, most, s =>
    let more := if most == some 0 then [] else
      (step s).flatMap fun t =>
        if t.rest.length < s.rest.length || 0 < least then
          repeats step fuel (least - 1) (most.map (· - 1)) t
        else []
    more ++ if least == 0 then [s] else []

/-- All ways to match at a place of a text of the given length, the preferred ones first. -/
def run (whole : Nat) : Regex → Standing → List Standing
  | empty, s => [s]
  | oneOf negated ranges, s =>
    match s.rest with
    | c :: rest =>
      if (ranges.any fun (low, high) => low ≤ c && c ≤ high) != negated then [{ s with rest }]
      else []
    | [] => []
  | lineStart, s => if s.rest.length == whole then [s] else []
  | lineEnd, s => if s.rest.isEmpty then [s] else []
  | both first second, s => (run whole first s).flatMap (run whole second)
  | either first second, s => run whole first s ++ run whole second s
  | repeated least most body, s => repeats (run whole body) (s.rest.length + least + 1) least most s
  | group n body, s => (run whole body s).map fun t =>
      { t with groups := (n, s.rest.take (s.rest.length - t.rest.length)) :: t.groups }
  | again n, s =>
    let text := ((s.groups.find? (·.1 == n)).map (·.2)).getD []
    if text.isPrefixOf s.rest then [{ s with rest := s.rest.drop text.length }] else []

/-- The longest of some standings, the first of them if there are several. -/
def longest : List Standing → Option Standing
  | [] => none
  | s :: rest =>
    match longest rest with
    | some t => if t.rest.length < s.rest.length then some t else some s
    | none => some s

/-- A match: what is before it, itself, what is after it, and the texts of groups. -/
structure Match where
  before : Bytes
  text : Bytes
  after : Bytes
  groups : List (Nat × Bytes)

/-- The first match in a text of the given length of which `rest` is left; `before` is what was
passed over, last byte first. -/
def findFrom (whole : Nat) (r : Regex) (before : Bytes) (rest : Bytes) : Option Match :=
  match longest (run whole r { rest }) with
  | some s => some ⟨before.reverse, rest.take (rest.length - s.rest.length), s.rest, s.groups⟩
  | none =>
    match rest with
    | [] => none
    | c :: rest => findFrom whole r (c :: before) rest

/-- The first match in a text. -/
def find (r : Regex) (text : Bytes) : Option Match := findFrom text.length r [] text

/-- The expression with case that does not count. -/
def folded : Regex → Regex
  | oneOf negated ranges =>
    let both := ranges.flatMap fun (low, high) =>
      let shifted (a b : UInt8) (f : UInt8 → UInt8) : List (UInt8 × UInt8) :=
        let low := max low a
        let high := min high b
        if low ≤ high then [(f low, f high)] else []
      (low, high) :: shifted 65 90 (· + 32) ++ shifted 97 122 (· - 32)
    oneOf negated both
  | both first second => .both first.folded second.folded
  | either first second => .either first.folded second.folded
  | repeated least most body => .repeated least most body.folded
  | group n body => .group n body.folded
  | r => r

/-! ### Notation -/

/-- What is read of an expression: the alternatives that are complete, the pieces of the one at
hand, last first, and how many groups were opened. -/
structure Reading where
  alternatives : Option Regex := none
  pieces : List Regex := []
  groups : Nat := 0

/-- The expression that was read. -/
def Reading.whole (r : Reading) : Regex :=
  let last := r.pieces.foldl (fun after piece => match after with
    | .empty => piece
    | after => .both piece after) .empty
  match r.alternatives with
  | some before => .either before last
  | none => last

/-- A byte that stands for itself. -/
def byte (c : UInt8) : Regex := .oneOf false [(c, c)]

/-- An element of the notation. -/
inductive Element where
  | piece (r : Regex)
  | opening
  | closing
  | alternative
  /-- So many times what comes before. -/
  | times (least : Nat) (most : Option Nat)

/-- Reads the bounds of a repetition up to its end. -/
def bounds (extended : Bool) (text : Bytes) : Option (Element × Bytes) :=
  let least := text.takeWhile isDigit
  let rest := text.drop least.length
  let (most, rest) := match rest with
    | 0x2C :: rest =>
      let most := rest.takeWhile isDigit
      (if most.isEmpty then none else some (decimal most), rest.drop most.length)
    | rest => (some (decimal least), rest)
  match extended, rest with
  | true, 0x7D :: rest => some (.times (decimal least) most, rest)
  | false, 0x5C :: 0x7D :: rest => some (.times (decimal least) most, rest)
  | _, _ => none

/-- Reads an element; `front` says that nothing comes before it. -/
def element (extended front : Bool) (c : UInt8) (rest : Bytes) : Option (Element × Bytes) :=
  let endsHere (rest : Bytes) : Bool :=
    rest.isEmpty || (if extended then (raw "|)").contains (rest.headD 0)
      else Bytes.beginsWith rest (raw "\\|") || Bytes.beginsWith rest (raw "\\)"))
  let special (c : UInt8) (rest : Bytes) : Option (Element × Bytes) :=
    if c == 0x28 then some (.opening, rest)
    else if c == 0x29 then some (.closing, rest)
    else if c == 0x7C then some (.alternative, rest)
    else if c == 0x7B then bounds extended rest
    else if c == 0x2B then some (.times 1 none, rest)
    else if c == 0x3F then some (.times 0 (some 1), rest)
    else none
  if c == 0x5C then
    match rest with
    | [] => none
    | d :: rest =>
      if 49 ≤ d && d ≤ 57 then some (.piece (.again (d.toNat - 48)), rest)
      else if d == 0x6E then some (.piece (byte 10), rest)
      else if d == 0x74 then some (.piece (byte 9), rest)
      else if d == 0x77 then
        some (.piece (.oneOf false [(48, 57), (65, 90), (95, 95), (97, 122)]), rest)
      else if d == 0x73 then some (.piece (.oneOf false [(9, 13), (32, 32)]), rest)
      else if extended then some (.piece (byte d), rest)
      else match special d rest with
        | some e => some e
        | none => if d == 0x7B then none else some (.piece (byte d), rest)
  else if c == 0x2E then some (.piece (.oneOf true []), rest)
  else if c == 0x2A then if front then some (.piece (byte c), rest) else some (.times 0 none, rest)
  else if c == 0x5B then
    let negated := rest.head? == some 0x5E
    let inner := if negated then rest.drop 1 else rest
    match Glob.bracket true [] (inner.length + 1) (inner.map (·, false)) with
    | some (ranges, after) => some (.piece (.oneOf negated ranges), after.map (·.1))
    | none => none
  else if c == 0x5E && (extended || front) then some (.piece .lineStart, rest)
  else if c == 0x24 && (extended || endsHere rest) then some (.piece .lineEnd, rest)
  else if extended && (raw "()|+?\x7b").contains c then
    match special c rest with
    | some e => some e
    | none => some (.piece (byte c), rest)
  else some (.piece (byte c), rest)

/-- Reads an expression, or all up to the end of a group; `none` if it is wrong. -/
def readOnto (extended : Bool) (inGroup : Bool) (r : Reading) :
    Nat → Bytes → Option (Reading × Bytes)
  | 0, _ => none
  | _ + 1, [] => if inGroup then none else some (r, [])
  | fuel + 1, c :: rest => do
    let (e, rest) ← element extended r.pieces.isEmpty c rest
    match e with
    | .piece p => readOnto extended inGroup { r with pieces := p :: r.pieces } fuel rest
    | .alternative =>
      readOnto extended inGroup { r with alternatives := some r.whole, pieces := [] } fuel rest
    | .times least most =>
      match r.pieces with
      | [] =>
        if extended then none else readOnto extended inGroup { r with pieces := [byte c] } fuel rest
      | p :: before =>
        readOnto extended inGroup { r with pieces := .repeated least most p :: before } fuel rest
    | .opening =>
      let n := r.groups + 1
      let (inner, rest) ← readOnto extended true { groups := n } fuel rest
      readOnto extended inGroup
        { r with pieces := .group n inner.whole :: r.pieces, groups := inner.groups } fuel rest
    | .closing => if inGroup then some (r, rest) else if extended then
        readOnto extended inGroup { r with pieces := byte c :: r.pieces } fuel rest else none

/-- The expression that a text stands for. -/
def ofText? (extended : Bool) (text : Bytes) : Option Regex :=
  (readOnto extended false {} (text.length + 1) text).map fun (r, _) => r.whole

/-- The expression that stands for a text itself. -/
def literally : Bytes → Regex
  | [] => .empty
  | c :: rest => .both (byte c) (literally rest)

end Regex

end Coprocess.Tools
