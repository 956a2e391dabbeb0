import Coprocess.Shell.Syntax

/-!
# Patterns

Patterns match byte strings.  In a pattern each byte is marked as quoted or not, and only those that
are not quoted can be special: `*` stands for any bytes, `?` for one, and a bracket expression for
one of those it lists.
-/

namespace Coprocess.Shell

/-- A byte of a pattern, and whether it is quoted. -/
abbrev Marked := UInt8 × Bool

/-- An element of a pattern. -/
inductive Glob where
  | byte (c : UInt8)
  | any
  | star
  /-- One byte that is in one of the ranges, or in none of them. -/
  | oneOf (negated : Bool) (ranges : List (UInt8 × UInt8))
deriving Repr, DecidableEq

namespace Glob

/-- The ranges of bytes that a class names. -/
def classRanges (name : Bytes) : List (UInt8 × UInt8) :=
  let classes : List (String × List (UInt8 × UInt8)) := [
    ("alpha", [(65, 90), (97, 122)]), ("digit", [(48, 57)]),
    ("alnum", [(48, 57), (65, 90), (97, 122)]), ("upper", [(65, 90)]), ("lower", [(97, 122)]),
    ("space", [(9, 13), (32, 32)]), ("blank", [(9, 9), (32, 32)]),
    ("punct", [(33, 47), (58, 64), (91, 96), (123, 126)]), ("cntrl", [(0, 31), (127, 127)]),
    ("print", [(32, 126)]), ("graph", [(33, 126)]), ("xdigit", [(48, 57), (65, 70), (97, 102)])]
  ((classes.find? fun (n, _) => raw n == name).map (·.2)).getD []

/-- The ranges of a bracket expression after its opening, and what follows it; `none` if it is never
closed. -/
def bracket (first : Bool) (acc : List (UInt8 × UInt8)) :
    Nat → List Marked → Option (List (UInt8 × UInt8) × List Marked)
  | 0, _ => none
  | _ + 1, [] => none
  | fuel + 1, (c, quoted) :: rest =>
    if c == 0x5D && !quoted && !first then some (acc, rest)
    else if c == 0x5B && !quoted && rest.head?.any (·.1 == 0x3A) then
      let name := (rest.drop 1).takeWhile fun (d, _) => d != 0x3A
      let after := rest.drop (1 + name.length)
      match (after.map (·.1) : Bytes) with
      | 0x3A :: 0x5D :: _ => bracket false (acc ++ classRanges (name.map (·.1))) fuel (after.drop 2)
      | _ => bracket false ((c, c) :: acc) fuel rest
    else match rest with
      | (0x2D, false) :: (d, dq) :: more =>
        if d == 0x5D && !dq then bracket false ((c, c) :: acc) fuel rest
        else bracket false ((c, d) :: acc) fuel more
      | _ => bracket false ((c, c) :: acc) fuel rest

/-- The elements of a pattern; as many steps as it has bytes are enough. -/
def ofMarked : Nat → List Marked → List Glob
  | 0, _ => []
  | _ + 1, [] => []
  | fuel + 1, (c, quoted) :: rest =>
    if quoted then .byte c :: ofMarked fuel rest
    else if c == 0x2A then .star :: ofMarked fuel rest
    else if c == 0x3F then .any :: ofMarked fuel rest
    else if c == 0x5B then
      let negated := match rest with
        | (d, false) :: _ => d == 0x21 || d == 0x5E
        | _ => false
      match bracket true [] (rest.length + 1) (if negated then rest.drop 1 else rest) with
      | some (ranges, rest) => .oneOf negated ranges :: ofMarked fuel rest
      | none => .byte c :: ofMarked fuel rest
    else .byte c :: ofMarked fuel rest

/-- Whether an element that stands for one byte stands for the given one. -/
def accepts (c : UInt8) : Glob → Bool
  | byte d => c == d
  | any => true
  | star => false
  | oneOf negated ranges => (ranges.any fun (low, high) => low ≤ c && c ≤ high) != negated

/-- Whether a pattern matches all of a byte string. -/
def isMatch : List Glob → Bytes → Bool
  | [], text => text.isEmpty
  | star :: pattern, text => matchTail pattern text
  | _ :: _, [] => false
  | g :: pattern, c :: text => g.accepts c && isMatch pattern text
termination_by pattern text => (pattern.length, text.length + 1)
where
  /-- Whether a pattern matches some end of a byte string. -/
  matchTail (pattern : List Glob) : Bytes → Bool
    | [] => isMatch pattern []
    | c :: text => isMatch pattern (c :: text) || matchTail pattern text
  termination_by text => (pattern.length + 1, text.length)

end Glob

/-- The elements of a pattern. -/
def globOf (marked : List Marked) : List Glob := Glob.ofMarked (marked.length + 1) marked

/-- Whether a marked byte string holds something that is special in patterns. -/
def isPattern (marked : List Marked) : Bool :=
  (globOf marked).any fun
    | .byte _ => false
    | _ => true

/-- The text without the shortest or longest beginning that matches. -/
def dropMatchingPrefix (longest : Bool) (pattern : List Glob) (text : Bytes) : Bytes :=
  let cuts := List.range (text.length + 1)
  let cuts := if longest then cuts.reverse else cuts
  match cuts.find? fun n => Glob.isMatch pattern (text.take n) with
  | some n => text.drop n
  | none => text

/-- The text without the shortest or longest end that matches. -/
def dropMatchingSuffix (longest : Bool) (pattern : List Glob) (text : Bytes) : Bytes :=
  let cuts := List.range (text.length + 1)
  let cuts := if longest then cuts else cuts.reverse
  match cuts.find? fun n => Glob.isMatch pattern (text.drop n) with
  | some n => text.take n
  | none => text

/-- Whether one byte string comes before another, byte by byte. -/
def precedes : Bytes → Bytes → Bool
  | [], _ => true
  | _ :: _, [] => false
  | c :: cs, d :: ds => if c < d then true else if d < c then false else precedes cs ds

end Coprocess.Shell
