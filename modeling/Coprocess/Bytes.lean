/-!
# Byte strings

Paths, environment entries and everything that travels through a channel are byte strings with no
encoding of their own.  Commands and messages are texts; a text is carried as its UTF-8 bytes, and
bytes are read back as text either strictly (`Bytes.text?`) or with a replacement character for each
maximal ill-formed part (`Bytes.lossyText`).

`Utf8.next` is the one place that knows which byte sequences are well formed; both readers are
folds over it.  `Bytes.joinWith` puts the pieces of `Bytes.splitOn` together again.
-/

namespace Coprocess

/-- A byte string: a path, an environment entry, or data on a channel. -/
abbrev Bytes := List UInt8

/-! ### Well-formed UTF-8 -/

namespace Utf8

/-- The least and greatest second byte that may follow the lead byte `lead` of a form of two or more
bytes, with the number of further continuation bytes; `none` if `lead` starts no such form.  The
narrowed ranges exclude overlong forms, surrogates and values above `U+10FFFF`. -/
def tailOf (lead : UInt8) : Option (UInt8 × UInt8 × Nat) :=
  if lead < 0xC2 then none
  else if lead < 0xE0 then some (0x80, 0xBF, 0)
  else if lead == 0xE0 then some (0xA0, 0xBF, 1)
  else if lead == 0xED then some (0x80, 0x9F, 1)
  else if lead < 0xF0 then some (0x80, 0xBF, 1)
  else if lead == 0xF0 then some (0x90, 0xBF, 2)
  else if lead < 0xF4 then some (0x80, 0xBF, 2)
  else if lead == 0xF4 then some (0x80, 0x8F, 2)
  else none

/-- The payload bits of a lead byte whose form has `extra` bytes after the second. -/
def leadBits (lead : UInt8) (extra : Nat) : Nat :=
  lead.toNat % (if extra == 0 then 32 else if extra == 1 then 16 else 8)

/-- Reads `extra` continuation bytes onto the value `acc`: whether all were there, the value, and
how many bytes that took on top of `taken`. -/
def takeTail : Nat → Nat → Nat → Bytes → Bool × Nat × Nat
  | 0, acc, taken, _ => (true, acc, taken)
  | _ + 1, acc, taken, [] => (false, acc, taken)
  | extra + 1, acc, taken, b :: rest =>
    if 0x80 ≤ b && b ≤ 0xBF then takeTail extra (acc * 64 + b.toNat % 64) (taken + 1) rest
    else (false, acc, taken)

/-- The first character of `lead :: rest`, and how many bytes of `rest` belong to it.  There is no
character at an ill-formed start; what belongs to that is its longest part that some well-formed
sequence begins with. -/
def next (lead : UInt8) (rest : Bytes) : Option Char × Nat :=
  if lead < 0x80 then (some (Char.ofNat lead.toNat), 0)
  else match tailOf lead, rest with
    | none, _ => (none, 0)
    | some _, [] => (none, 0)
    | some (low, high, extra), b :: more =>
      if low ≤ b && b ≤ high then
        let (whole, value, taken) := takeTail extra (leadBits lead extra * 64 + b.toNat % 64) 1 more
        (if whole then some (Char.ofNat value) else none, taken)
      else (none, 0)

theorem length_drop_lt (lead : UInt8) (rest : Bytes) (n : Nat) :
    (rest.drop n).length < (lead :: rest).length := by
  simp only [List.length_drop, List.length_cons]
  omega

/-- Puts the maximal parts of `bs` on top of `acc`, last part first. -/
def partsOnto (acc : List (Option Char × Bytes)) : Bytes → List (Option Char × Bytes)
  | [] => acc
  | lead :: rest =>
    let step := next lead rest
    partsOnto ((step.1, lead :: rest.take step.2) :: acc) (rest.drop step.2)
termination_by bs => bs.length
decreasing_by exact length_drop_lt lead rest _

/-- The maximal parts of a byte string, in order: a character, or `none` for ill-formed bytes, each
with the bytes it stands for. -/
def parts (bs : Bytes) : List (Option Char × Bytes) := (partsOnto [] bs).reverse

/-- Puts the characters of `bs` on top of `acc`, last character first, as long as all is well
formed. -/
def charsOnto (acc : List Char) : Bytes → Option (List Char)
  | [] => some acc
  | lead :: rest =>
    let step := next lead rest
    match step.1 with
    | some c => charsOnto (c :: acc) (rest.drop step.2)
    | none => none
termination_by bs => bs.length
decreasing_by exact length_drop_lt lead rest _

end Utf8

/-! ### Bytes and text -/

namespace Bytes

/-- The UTF-8 form of a list of characters. -/
def ofChars (cs : List Char) : Bytes := cs.flatMap String.utf8EncodeChar

/-- The UTF-8 form of a text. -/
def ofText (s : String) : Bytes := ofChars s.toList

/-- The characters of a well-formed byte string, `none` if some part is ill formed. -/
def chars? (b : Bytes) : Option (List Char) := (Utf8.charsOnto [] b).map List.reverse

/-- The text that `b` is the UTF-8 form of, if it is well formed. -/
def text? (b : Bytes) : Option String := b.chars?.map String.ofList

/-- The text of `b` with `U+FFFD` for each maximal ill-formed part. -/
def lossyText (b : Bytes) : String :=
  String.ofList ((Utf8.parts b).map fun part => part.1.getD '\uFFFD')

/-! ### Cutting at a separator -/

/-- Puts one more byte before pieces that are already cut: a separator opens a new piece, any other
byte extends the first. -/
def cut (sep b : UInt8) (pieces : List Bytes) : List Bytes :=
  if b == sep then [] :: pieces
  else match pieces with
    | [] => [[b]]
    | piece :: more => (b :: piece) :: more

/-- The pieces of a byte string between the occurrences of `sep`; never empty, and `[[]]` for the
empty string. -/
def splitOn (sep : UInt8) (b : Bytes) : List Bytes := b.foldr (cut sep) [[]]

/-- The pieces with `sep` between each two. -/
def joinWith (sep : UInt8) : List Bytes → Bytes
  | [] => []
  | [piece] => piece
  | piece :: more => piece ++ sep :: joinWith sep more

theorem cut_ne_nil (sep b : UInt8) (pieces : List Bytes) : cut sep b pieces ≠ [] := by
  unfold cut
  split
  · simp
  · split <;> simp

theorem splitOn_cons (sep b : UInt8) (rest : Bytes) :
    splitOn sep (b :: rest) = cut sep b (splitOn sep rest) := rfl

theorem splitOn_ne_nil (sep : UInt8) (b : Bytes) : splitOn sep b ≠ [] := by
  cases b with
  | nil => simp [splitOn]
  | cons b rest =>
    rw [splitOn_cons]
    exact cut_ne_nil sep b _

/-- Whether `b` begins with `start`. -/
def beginsWith (b start : Bytes) : Bool := start.isPrefixOf b

/-- Whether `part` occurs in `b` in one piece. -/
def hasPart (part : Bytes) : Bytes → Bool
  | [] => part.isEmpty
  | b :: rest => part.isPrefixOf (b :: rest) || hasPart part rest

/-- Whether the zero byte occurs; such a string has no zero-terminated form. -/
def hasNul (b : Bytes) : Bool := b.contains 0

end Bytes

end Coprocess
