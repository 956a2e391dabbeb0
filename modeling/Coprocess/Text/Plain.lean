import Coprocess.Bytes

/-!
# Text without control sequences

What is left of a text when everything that would steer a terminal is taken out: escape sequences,
and control characters other than blanks.  The reader goes through the bytes of the text and is
either taking bytes or passing over them; `Sequence` says which part of a sequence it is in.  A
blank within a sequence is kept and has the reader take bytes again, but does not end the sequence
for good.
-/

namespace Coprocess.Text

/-- How far a control sequence has been read. -/
inductive Sequence where
  | outside
  | escape
  | escapeMiddle
  | control
  | controlParameters
  | controlMiddle
  | controlIgnored
  | device
  | deviceParameters
  | deviceMiddle
  | deviceIgnored
  | deviceData
  | command
  | message
deriving DecidableEq, Repr

namespace Sequence

/-- Whether a byte is a blank among the control characters, or a space. -/
def isBlank (b : UInt8) : Bool := b == 32 || b == 9 || b == 10 || b == 12 || b == 13

/-- Whether control characters are carried out, and blanks thereby kept, in this part of a
sequence. -/
def carriesOut : Sequence → Bool
  | outside | escape | escapeMiddle | control | controlParameters | controlMiddle | controlIgnored =>
    true
  | _ => false

/-- The part of a sequence that a byte leads to. -/
def next (s : Sequence) (b : UInt8) : Sequence :=
  if b == 0x1B then escape
  else if b == 0x18 || b == 0x1A then outside
  else if b < 0x20 && !(s == command && b == 7) then s
  else match s with
    | outside => outside
    | escape =>
      if b < 0x30 then escapeMiddle
      else if b == 0x5B then control
      else if b == 0x5D then command
      else if b == 0x50 then device
      else if b == 0x58 || b == 0x5E || b == 0x5F then message
      else if b < 0x7F then outside
      else escape
    | escapeMiddle => if 0x30 ≤ b && b < 0x7F then outside else s
    | control =>
      if b < 0x30 then controlMiddle
      else if b < 0x40 then controlParameters
      else if b < 0x7F then outside
      else s
    | controlParameters =>
      if b < 0x30 then controlMiddle
      else if b < 0x3C then s
      else if b < 0x40 then controlIgnored
      else if b < 0x7F then outside
      else s
    | controlMiddle =>
      if b < 0x30 then s
      else if b < 0x40 then controlIgnored
      else if b < 0x7F then outside
      else s
    | controlIgnored => if 0x40 ≤ b && b < 0x7F then outside else s
    | device =>
      if b < 0x30 then deviceMiddle
      else if b < 0x40 then deviceParameters
      else if b < 0x7F then deviceData
      else s
    | deviceParameters =>
      if b < 0x30 then deviceMiddle
      else if b < 0x3C then s
      else if b < 0x40 then deviceIgnored
      else if b < 0x7F then deviceData
      else s
    | deviceMiddle =>
      if b < 0x30 then s
      else if b < 0x40 then deviceIgnored
      else if b < 0x7F then deviceData
      else s
    | deviceIgnored | deviceData | message => if b == 0x9C then outside else s
    | command => if b == 7 then outside else s

end Sequence

/-- A reader of bytes that may be part of control sequences. -/
structure PlainReader where
  sequence : Sequence := .outside
  /-- Whether bytes are taken rather than passed over. -/
  taking : Bool := false
  /-- How many bytes of a character are still to come. -/
  more : Nat := 0
  /-- What was taken, last byte first. -/
  taken : Bytes := []

namespace PlainReader

/-- The number of bytes that follow the first byte of a character. -/
def followers (b : UInt8) : Nat :=
  if b < 0xC2 then 0 else if b < 0xE0 then 1 else if b < 0xF0 then 2 else 3

/-- Whether a byte shows outside of sequences by itself. -/
def shows (b : UInt8) : Bool := Sequence.isBlank b || (0x20 ≤ b && b < 0x7F)

/-- Takes a byte. -/
def keep (r : PlainReader) (b : UInt8) : PlainReader :=
  { r with taking := true, taken := b :: r.taken, more := followers b
           sequence := if 0 < followers b then .outside else r.sequence }

/-- Reads a byte that is passed over, unless it ends the passing over. -/
def passOver (r : PlainReader) (b : UInt8) : PlainReader :=
  let kept := (r.sequence == .outside && (shows b || 0xC2 ≤ b)) ||
    (r.sequence.carriesOut && b < 0x20 && Sequence.isBlank b)
  if kept then r.keep b else { r with taking := false, sequence := r.sequence.next b }

/-- Reads a byte. -/
def read (r : PlainReader) (b : UInt8) : PlainReader :=
  match r.more with
  | more + 1 => { r with more, taken := b :: r.taken }
  | 0 =>
    if !r.taking then r.passOver b
    else if shows b || 0xC2 ≤ b then r.keep b
    else r.passOver b

end PlainReader

/-- A text without control sequences. -/
def plain (s : String) : String :=
  Bytes.lossyText ((Bytes.ofText s).foldl PlainReader.read {}).taken.reverse

end Coprocess.Text
