import Coprocess.Bytes
import Coprocess.Text.Printable

/-!
# Quoted text

Log records and handle descriptions show a text between double quotes, with everything that could
not be read back as itself escaped.  `escape` gives the form of one character: a short escape for
the usual controls, `\u` with the code point in braces for any other character that does not print,
and the character itself otherwise.  A byte string is shown the same way, with `\x` and two digits
for a byte that belongs to no character.

The two kinds of quoted values differ in one point, the apostrophe: a text shows it as it is and a
byte string escapes it (`Marks`).
-/

namespace Coprocess.Text

/-- The digits of `n` in base sixteen, most significant first. -/
def hexDigits (n : Nat) : List Char :=
  if n < 16 then [(Nat.digitChar n)] else hexDigits (n / 16) ++ [Nat.digitChar (n % 16)]

/-- The two upper-case digits of a byte. -/
def byteDigits (b : UInt8) : List Char :=
  [b.toNat / 16, b.toNat % 16].map fun d => (Nat.digitChar d).toUpper

/-- Which quotation marks are escaped inside the enclosing double quotes. -/
inductive Marks where
  | doubleOnly
  | both
deriving DecidableEq

/-- The form of one character between quotes. -/
def escape (marks : Marks) (c : Char) : List Char :=
  if c == '\x00' then ['\\', '0']
  else if c == '\t' then ['\\', 't']
  else if c == '\r' then ['\\', 'r']
  else if c == '\n' then ['\\', 'n']
  else if c == '\\' then ['\\', '\\']
  else if c == '\x22' then ['\\', '\x22']
  else if c == '\x27' && marks == .both then ['\\', '\x27']
  else if isPrintable c then [c]
  else ['\\', 'u', '\x7b'] ++ hexDigits c.toNat ++ ['\x7d']

/-- A text between double quotes. -/
def quoted (s : String) : String :=
  String.ofList ('\x22' :: s.toList.flatMap (escape .doubleOnly) ++ ['\x22'])

/-- A byte string between double quotes. -/
def quotedBytes (b : Bytes) : String :=
  let body := (Utf8.parts b).flatMap fun part =>
    match part.1 with
    | some c => escape .both c
    | none => part.2.flatMap fun byte => ['\\', 'x'] ++ byteDigits byte
  String.ofList ('\x22' :: body ++ ['\x22'])

end Coprocess.Text
