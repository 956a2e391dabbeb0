import Coprocess.Toml.Value

/-!
# Settings documents: texts, numbers and dates

Readers for the values that do not contain other values.  A reader takes the characters that remain
and returns what it read with the characters after it, or `none` if they do not start with such a
value.  Texts come in four forms, by the quote and by whether it is tripled; numbers and dates are
recognised as whole tokens, cut at the next character that cannot belong to one.
-/

namespace Coprocess.Toml

/-! ### Characters -/

/-- A digit of base sixteen and its value. -/
def hexValue? (c : Char) : Option Nat :=
  if '0' ≤ c && c ≤ '9' then some (c.toNat - '0'.toNat)
  else if 'a' ≤ c && c ≤ 'f' then some (c.toNat - 'a'.toNat + 10)
  else if 'A' ≤ c && c ≤ 'F' then some (c.toNat - 'A'.toNat + 10)
  else none

/-- Characters that may stand for themselves in a comment or in a text: all but the control
characters, the tab excepted. -/
def isPlain (c : Char) : Bool := c == '\t' || (0x20 ≤ c.toNat && c.toNat != 0x7F)

/-- A blank within a line. -/
def isBlank (c : Char) : Bool := c == ' ' || c == '\t'

/-- Whether the characters begin with a line end. -/
def atLineEnd : List Char → Bool
  | '\n' :: _ => true
  | '\r' :: '\n' :: _ => true
  | _ => false

/-! ### Texts -/

/-- Reads exactly `count` digits of base sixteen onto `acc`. -/
def takeHex : Nat → Nat → List Char → Option (Nat × List Char)
  | 0, acc, rest => some (acc, rest)
  | _ + 1, _, [] => none
  | count + 1, acc, c :: rest =>
    match hexValue? c with
    | some d => takeHex count (acc * 16 + d) rest
    | none => none

/-- Reads the digits of an escaped code point, which must be a scalar value. -/
def takeCodePoint (count : Nat) (rest : List Char) : Option (Char × List Char) := do
  let (n, rest) ← takeHex count 0 rest
  if n.isValidChar then some (Char.ofNat n, rest) else none

/-- Reads an escape sequence after its backslash. -/
def takeEscape : List Char → Option (Char × List Char)
  | 'b' :: rest => some ('\x08', rest)
  | 't' :: rest => some ('\t', rest)
  | 'n' :: rest => some ('\n', rest)
  | 'f' :: rest => some ('\x0c', rest)
  | 'r' :: rest => some ('\r', rest)
  | 'e' :: rest => some ('\x1b', rest)
  | '\x22' :: rest => some ('\x22', rest)
  | '\\' :: rest => some ('\\', rest)
  | 'x' :: rest => takeCodePoint 2 rest
  | 'u' :: rest => takeCodePoint 4 rest
  | 'U' :: rest => takeCodePoint 8 rest
  | _ => none

/-- Skips the line end a backslash stands before, with the blanks and line ends after it; `none` if
something else than blanks stands between. -/
def skipContinuation (rest : List Char) : Option (List Char) :=
  let afterBlanks := rest.dropWhile isBlank
  if atLineEnd afterBlanks then
    some (afterBlanks.dropWhile fun c => isBlank c || c == '\n' || c == '\r')
  else none

/-- Which of the four forms a text has. -/
structure TextForm where
  quote : Char
  /-- Whether a backslash starts an escape sequence. -/
  escapes : Bool
  /-- Whether the quote is tripled and the text may span lines. -/
  tripled : Bool

/-- Reads the body of a text up to its closing quote; `acc` holds what was read, last first. -/
def takeBody (form : TextForm) : Nat → List Char → List Char → Option (String × List Char)
  | 0, _, _ => none
  | _ + 1, _, [] => none
  | fuel + 1, acc, c :: rest =>
    if c == form.quote then
      if !form.tripled then some (String.ofList acc.reverse, rest)
      else
        -- Up to two quotes may stand directly before the closing three.
        let run := (c :: rest).takeWhile (· == form.quote)
        let after := (c :: rest).dropWhile (· == form.quote)
        if run.length < 3 then takeBody form fuel (run ++ acc) after
        else if run.length ≤ 5 then
          some (String.ofList ((List.replicate (run.length - 3) c ++ acc).reverse), after)
        else none
    else if c == '\\' && form.escapes then
      match takeEscape rest with
      | some (e, after) => takeBody form fuel (e :: acc) after
      | none =>
        if form.tripled then
          match skipContinuation rest with
          | some after => takeBody form fuel acc after
          | none => none
        else none
    else if form.tripled && atLineEnd (c :: rest) then
      takeBody form fuel ('\n' :: acc) (if c == '\r' then rest.drop 1 else rest)
    else if isPlain c then takeBody form fuel (c :: acc) rest
    else none

/-- Reads a text of any form; `lines` says whether the tripled forms are allowed here. -/
def takeText (lines : Bool) (cs : List Char) : Option (String × List Char) :=
  let body := fun form rest => takeBody form (cs.length + 1) [] rest
  let afterOpening := fun rest : List Char =>
    match rest with
    | '\n' :: r => r
    | '\r' :: '\n' :: r => r
    | r => r
  match cs with
  | '\x22' :: '\x22' :: '\x22' :: rest =>
    if lines then body ⟨'\x22', true, true⟩ (afterOpening rest) else none
  | '\x27' :: '\x27' :: '\x27' :: rest =>
    if lines then body ⟨'\x27', false, true⟩ (afterOpening rest) else none
  | '\x22' :: rest => body ⟨'\x22', true, false⟩ rest
  | '\x27' :: rest => body ⟨'\x27', false, false⟩ rest
  | _ => none

/-! ### Numbers -/

/-- Whether `cs` is a run of digits of the class, with single underscores between digits only. -/
def isDigits (digit : Char → Bool) : List Char → Bool
  | [] => false
  | [c] => digit c
  | c :: '_' :: rest => digit c && isDigits digit rest
  | c :: rest => digit c && isDigits digit rest

/-- A decimal digit. -/
def isDecimal (c : Char) : Bool := '0' ≤ c && c ≤ '9'

/-- The characters after a sign, if one comes first. -/
def dropSign : List Char → List Char
  | '+' :: rest => rest
  | '-' :: rest => rest
  | cs => cs

/-- A decimal number without its sign: digits that do not begin with a superfluous zero. -/
def isUnsignedDecimal (cs : List Char) : Bool :=
  isDigits isDecimal cs && (cs.head? != some '0' || cs.length == 1)

/-- Whether the token is an integer. -/
def isInteger : List Char → Bool
  | '0' :: 'x' :: rest => isDigits (fun c => (hexValue? c).isSome) rest
  | '0' :: 'o' :: rest => isDigits (fun c => '0' ≤ c && c ≤ '7') rest
  | '0' :: 'b' :: rest => isDigits (fun c => c == '0' || c == '1') rest
  | cs => isUnsignedDecimal (dropSign cs)

/-- The value of a run of decimal digits and underscores. -/
def decimalValue (cs : List Char) : Nat :=
  cs.foldl (fun n c => if c == '_' then n else n * 10 + (c.toNat - '0'.toNat)) 0

/-- Whether `digits · 10 ^ exponent` rounds to a finite double: it lies below the middle between the
greatest double and the next power of two.  Numbers of very different magnitude are decided by their
count of digits. -/
def isFinite (digits : Nat) (exponent : Int) : Bool :=
  let magnitude : Int := (Nat.toDigits 10 digits).length + exponent
  if digits == 0 || magnitude ≤ 308 then true
  else if magnitude > 310 then false
  else
    let bound := Nat.pow 2 1024 - Nat.pow 2 970
    if exponent ≥ 0 then digits * Nat.pow 10 exponent.toNat < bound
    else digits < bound * Nat.pow 10 (-exponent).toNat

/-- Whether the token is a floating-point number, and a finite one if it is given by digits. -/
def isFloat (token : List Char) : Bool :=
  let cs := dropSign token
  if cs == "inf".toList || cs == "nan".toList then true
  else
    let isExp := fun c : Char => c == 'e' || c == 'E'
    let mantissa := cs.takeWhile (!isExp ·)
    let exponent := (cs.dropWhile (!isExp ·)).drop 1
    let whole := mantissa.takeWhile (· != '.')
    let fraction := (mantissa.dropWhile (· != '.')).drop 1
    let hasFraction := mantissa.contains '.'
    let hasExponent := cs.any isExp
    let exponentValue : Int :=
      let n : Int := decimalValue (dropSign exponent)
      if exponent.head? == some '-' then -n else n
    let places := (fraction.filter (· != '_')).length
    (hasFraction || hasExponent) && isUnsignedDecimal whole &&
      (!hasFraction || isDigits isDecimal fraction) &&
      (!hasExponent || isDigits isDecimal (dropSign exponent)) &&
      isFinite (decimalValue (whole ++ fraction)) (exponentValue - places)

/-! ### Dates and times -/

/-- Reads exactly `count` decimal digits. -/
def takeDecimal (count : Nat) (cs : List Char) : Option (Nat × List Char) :=
  let digits := cs.take count
  if digits.length == count && digits.all isDecimal then some (decimalValue digits, cs.drop count)
  else none

/-- Reads the given character. -/
def takeChar (c : Char) : List Char → Option (List Char)
  | d :: rest => if d == c then some rest else none
  | [] => none

/-- The number of days of a month. -/
def daysIn (year month : Nat) : Nat :=
  if month == 2 then if (year % 4 == 0 && year % 100 != 0) || year % 400 == 0 then 29 else 28
  else if month == 4 || month == 6 || month == 9 || month == 11 then 30
  else 31

/-- Reads `YYYY-MM-DD`, a day of the calendar. -/
def takeDate (cs : List Char) : Option (List Char) := do
  let (year, cs) ← takeDecimal 4 cs
  let (month, cs) ← takeDecimal 2 (← takeChar '-' cs)
  let (day, cs) ← takeDecimal 2 (← takeChar '-' cs)
  if 1 ≤ month && month ≤ 12 && 1 ≤ day && day ≤ daysIn year month then some cs else none

/-- Reads `HH:MM` and, if they follow, seconds with their fraction. -/
def takeTime (cs : List Char) : Option (List Char) := do
  let (hour, cs) ← takeDecimal 2 cs
  let (minute, cs) ← takeDecimal 2 (← takeChar ':' cs)
  if hour > 23 || minute > 59 then none
  match cs with
  | ':' :: rest =>
    let (second, cs) ← takeDecimal 2 rest
    if second > 60 then none
    match cs with
    | '.' :: rest =>
      let fraction := rest.takeWhile isDecimal
      if fraction.isEmpty then none else some (rest.dropWhile isDecimal)
    | _ => some cs
  | _ => some cs

/-- Whether `cs` is a time zone: `Z` or an offset. -/
def isZone : List Char → Bool
  | ['Z'] => true
  | ['z'] => true
  | sign :: rest =>
    let offset : Option (List Char) := do
      let (hour, cs) ← takeDecimal 2 rest
      let (minute, cs) ← takeDecimal 2 (← takeChar ':' cs)
      if hour > 23 || minute > 59 then none else some cs
    (sign == '+' || sign == '-') && offset == some []
  | [] => false

/-- Whether the token is a time, a date, or both with an optional zone. -/
def isDatetime (cs : List Char) : Bool :=
  match takeDate cs with
  | none => takeTime cs == some []
  | some [] => true
  | some (sep :: rest) =>
    (sep == 'T' || sep == 't' || sep == ' ') &&
      match takeTime rest with
      | some [] => true
      | some zone => isZone zone
      | none => false

/-! ### Tokens -/

/-- Characters of which unquoted values are made. -/
def isTokenChar (c : Char) : Bool := c.isAlphanum || c == '_' || c == '-' || c == '+' || c == '.' ||
  c == ':'

/-- Cuts off an unquoted value.  A date may be followed by one blank and a time, which then belong
to the same value. -/
def takeToken (cs : List Char) : List Char × List Char :=
  let first := cs.takeWhile isTokenChar
  let rest := cs.dropWhile isTokenChar
  match takeDate first, rest with
  | some [], ' ' :: more =>
    if (more.head?.map isDecimal).getD false then
      (first ++ ' ' :: more.takeWhile isTokenChar, more.dropWhile isTokenChar)
    else (first, rest)
  | _, _ => (first, rest)

/-- Reads an unquoted value. -/
def takePlain (cs : List Char) : Option (Value × List Char) :=
  let (token, rest) := takeToken cs
  if token == "true".toList then some (.boolean true, rest)
  else if token == "false".toList then some (.boolean false, rest)
  else if isInteger token then some (.integer, rest)
  else if isFloat token then some (.float, rest)
  else if isDatetime token then some (.datetime, rest)
  else none

end Coprocess.Toml
