import Coprocess.Shell.Pattern
import Coprocess.Tools.Printing
import Coprocess.Tools.Tool

/-!
# Tools for characters

`tr` replaces, deletes and squeezes bytes; `od` shows them.
-/

namespace Coprocess.Tools

open Host Shell

/-! ### Replacing -/

/-- The bytes that a set of `tr` lists. -/
def trSet : Nat → Bytes → Bytes
  | 0, _ => []
  | _ + 1, [] => []
  | fuel + 1, text =>
    match text with
    | 0x5B :: 0x3A :: rest =>
      let name := rest.takeWhile (· != 0x3A)
      let ranges := Glob.classRanges name
      if ranges.isEmpty then 0x5B :: trSet fuel (0x3A :: rest)
      else
        let all := (List.range 256).map UInt8.ofNat
        (all.filter fun c => ranges.any fun (low, high) => low ≤ c && c ≤ high) ++
          trSet fuel (rest.drop (name.length + 2))
    | text =>
      let (c, rest) := match text with
        | 0x5C :: rest =>
          match escape ⟨false, false, false, false⟩ rest with
          | .bytes [c] rest => (c, rest)
          | _ => (rest.headD 0x5C, rest.drop 1)
        | c :: rest => (c, rest)
        | [] => (0, [])
      match rest with
      | 0x2D :: d :: more =>
        if c ≤ d then
          (List.range (d.toNat - c.toNat + 1)).map (fun n => c + UInt8.ofNat n) ++ trSet fuel more
        else c :: trSet fuel rest
      | rest => c :: trSet fuel rest

/-- Makes runs of bytes of a set single, given the byte before them; the result is last byte
first. -/
def squeeze (set : Bytes) (before : Option UInt8) (out : Bytes) : Bytes → Option UInt8 × Bytes
  | [] => (before, out)
  | c :: rest =>
    if before == some c && set.contains c then squeeze set before out rest
    else squeeze set (some c) (c :: out) rest

/-- Replaces, deletes or squeezes bytes. -/
def tr : Tool := fun argv _ =>
  let (letters, sets) := options (argv.drop 1)
  let read (text : Bytes) : Bytes := trSet (text.length + 1) text
  let first := read (sets.headD [])
  let first := if letters.contains 0x63 || letters.contains 0x43 then
    ((List.range 256).map UInt8.ofNat).filter (!first.contains ·) else first
  let second := read ((sets.drop 1).headD [])
  if sets.isEmpty then Tool.misused argv (raw "missing operand") 1
  else
    let deleting := letters.contains 0x64
    let last := second.getLast?.getD 0
    let change (text : Bytes) : Bytes :=
      if deleting then text.filter (!first.contains ·)
      else if second.isEmpty then text
      else text.map fun c => ((first.idxOf? c).map fun n => second.getD n last).getD c
    let set := if letters.contains 0x73 then (if second.isEmpty then first else second) else []
    Tool.filter argv id [] {
      start := none
      step := fun before data =>
        let (before, out) := squeeze set before [] (change data)
        (before, out.reverse, false)
      finish := fun _ => [] : Filter (Option UInt8) }

/-! ### Showing -/

/-- How `od` shows bytes. -/
inductive ByteView where
  | characters
  | hexadecimal
  | octal
  /-- Pairs of bytes, the low one first, as octal numbers. -/
  | octalPairs
deriving DecidableEq

/-- A number in a base, filled up with zeros. -/
def zeroFilled (base width n : Nat) : Bytes := fill false true width [] (inBase base false n)

/-- A byte as `od -c` shows it. -/
def shownByte (c : UInt8) : Bytes :=
  match (raw "\x00\x07\x08\t\n\x0b\x0c\r").idxOf? c with
  | some n => fill false false 4 [] [0x5C, (raw "0abtnvfr").getD n 0]
  | none =>
    if 32 ≤ c && c < 127 then fill false false 4 [] [c]
    else fill false false 4 [] (zeroFilled 8 3 c.toNat)

/-- A line of bytes as it is shown. -/
def ByteView.line (v : ByteView) (bytes : Bytes) : Bytes :=
  match v with
  | characters => bytes.flatMap shownByte
  | hexadecimal => bytes.flatMap fun c => 32 :: zeroFilled 16 2 c.toNat
  | octal => bytes.flatMap fun c => 32 :: zeroFilled 8 3 c.toNat
  | octalPairs => pairs bytes
where
  /-- The pairs of a line. -/
  pairs : Bytes → Bytes
    | [] => []
    | [c] => 32 :: zeroFilled 8 6 c.toNat
    | c :: d :: rest => (32 :: zeroFilled 8 6 (c.toNat + 256 * d.toNat)) ++ pairs rest

/-- The lines that show a text from an offset on; equal lines are shown once. -/
def dump (v : ByteView) (address : Nat → Bytes) (offset : Nat) (before : Option Bytes)
    (starred : Bool)
    (out : List Bytes) : List Bytes → List Bytes
  | [] => out.reverse
  | bytes :: rest =>
    if before == some bytes && !rest.isEmpty then
      dump v address (offset + bytes.length) before true (if starred then out else raw "*\n" :: out)
        rest
    else
      dump v address (offset + bytes.length) (some bytes) false
        ((address offset ++ v.line bytes ++ [10]) :: out) rest

/-- A text in pieces of so many bytes. -/
def pieces (size : Nat) : Nat → Bytes → List Bytes
  | 0, _ => []
  | _ + 1, [] => []
  | fuel + 1, text => text.take size :: pieces size fuel (text.drop size)

/-- Shows bytes. -/
def od : Tool := fun argv _ =>
  let rec read (v : ByteView) (base : Option Nat) (names : List Bytes) :
      Nat → List Bytes → ByteView × Option Nat × List Bytes
    | 0, _ | _, [] => (v, base, names.reverse)
    | fuel + 1, arg :: rest =>
      let base? (text : Bytes) : Option Nat :=
        if text == raw "n" then none
        else if text == raw "x" then some 16
        else if text == raw "d" then some 10 else some 8
      let view? (text : Bytes) : ByteView := if text == raw "c" then .characters
        else if text == raw "x1" then .hexadecimal
        else if text == raw "o1" then .octal
        else .octalPairs
      match arg with
      | 0x2D :: 0x41 :: text =>
        if text.isEmpty then read v (base? (rest.headD [])) names fuel (rest.drop 1)
        else read v (base? text) names fuel rest
      | 0x2D :: 0x74 :: text =>
        if text.isEmpty then read (view? (rest.headD [])) base names fuel (rest.drop 1)
        else read (view? text) base names fuel rest
      | 0x2D :: 0x63 :: _ => read .characters base names fuel rest
      | 0x2D :: 0x62 :: _ => read .octal base names fuel rest
      | 0x2D :: _ :: _ => read v base names fuel rest
      | name => read v base (name :: names) fuel rest
  let (v, base, names) := read .octalPairs (some 8) [] argv.length (argv.drop 1)
  let address (n : Nat) : Bytes := match base with
    | none => []
    | some b => zeroFilled b (if b == 16 then 6 else 7) n
  Tool.summary argv id names fun texts =>
    let text := texts.flatten
    (dump v address 0 none false [] (pieces 16 (text.length + 1) text)).flatten ++
      (if base.isSome then address text.length ++ [10] else [])

end Coprocess.Tools
