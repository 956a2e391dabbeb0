import Coprocess.Shell.Syntax

/-!
# Printed text

What `echo` and `printf` print, as functions of their arguments.  A backslash begins an escape;
which escapes there are depends on who prints.
-/

namespace Coprocess.Tools

open Shell

/-- What an escape stands for, and what follows it; `none` for the escape that ends all output. -/
inductive Escape where
  | bytes (out : Bytes) (rest : Bytes)
  | stop

/-- Up to `count` octal digits as a byte. -/
def octal (count acc : Nat) : Bytes → Nat × Bytes
  | c :: rest =>
    if 0 < count && 48 ≤ c && c ≤ 55 then octal (count - 1) (acc * 8 + (c.toNat - 48)) rest
    else (acc, c :: rest)
  | [] => (acc, [])

/-- Up to `count` hexadecimal digits as a number. -/
def hexadecimal (count acc : Nat) : Bytes → Nat × Bytes
  | c :: rest =>
    let digit := if isDigit c then c.toNat - 48
      else if 97 ≤ c && c ≤ 102 then c.toNat - 87
      else if 65 ≤ c && c ≤ 70 then c.toNat - 55 else 16
    if 0 < count && digit < 16 then hexadecimal (count - 1) (acc * 16 + digit) rest
    else (acc, c :: rest)
  | [] => (acc, [])

/-- Which escapes a printer knows. -/
structure Escapes where
  /-- Octal digits must follow a zero. -/
  leadingZero : Bool
  /-- Bytes may be given by hexadecimal digits. -/
  hexadecimal : Bool
  /-- There is an escape for the escape character. -/
  escapeKey : Bool
  /-- There is an escape that ends all output. -/
  canStop : Bool

/-- The escape after a backslash. -/
def escape (e : Escapes) (text : Bytes) : Escape :=
  match text with
  | [] => .bytes [0x5C] []
  | c :: rest =>
    match (raw "\\abfnrtv").idxOf? c with
    | some n => .bytes [[0x5C, 7, 8, 12, 10, 13, 9, 11].getD n 0] rest
    | none =>
      if c == 0x63 && e.canStop then .stop
      else if e.escapeKey && c == 0x65 then .bytes [27] rest
      else if e.hexadecimal && c == 0x78 then
        let (n, after) := hexadecimal 2 0 rest
        if after.length == rest.length then .bytes [0x5C, c] rest else .bytes [UInt8.ofNat n] after
      else if e.leadingZero then
        if c == 0x30 then
          let (n, after) := octal 3 0 rest
          .bytes [UInt8.ofNat n] after
        else .bytes [0x5C, c] rest
      else if 48 ≤ c && c ≤ 55 then
        let (n, after) := octal 3 0 text
        .bytes [UInt8.ofNat n] after
      else if c == 0x22 then .bytes [0x22] rest
      else .bytes [0x5C, c] rest

/-- A text with its escapes replaced, last byte first on top of `acc`, and whether output ends
there. -/
def unescapeOnto (e : Escapes) (acc : Bytes) : Nat → Bytes → Bytes × Bool
  | 0, _ => (acc, false)
  | _ + 1, [] => (acc, false)
  | fuel + 1, c :: rest =>
    if c == 0x5C then
      match escape e rest with
      | .bytes out rest => unescapeOnto e (out.reverse ++ acc) fuel rest
      | .stop => (acc, true)
    else unescapeOnto e (c :: acc) fuel rest

/-- A text with its escapes replaced, and whether output ends there. -/
def unescape (e : Escapes) (text : Bytes) : Bytes × Bool :=
  let (acc, stopped) := unescapeOnto e [] (text.length + 1) text
  (acc.reverse, stopped)

/-! ### Echo -/

/-- Arguments with a blank between each two. -/
def joined (args : List Bytes) : Bytes := Bytes.joinWith 0x20 args

/-- What the builtin `echo` prints: it always knows escapes, and takes one option. -/
def echoBuiltin (args : List Bytes) : Bytes :=
  let (args, newline) := match args with
    | first :: rest => if first == raw "-n" then (rest, false) else (args, true)
    | [] => ([], true)
  let text := joined args
  if text.contains 0x5C then
    let (out, stopped) := unescape ⟨true, false, true, true⟩ text
    out ++ if newline && !stopped then [10] else []
  else text ++ if newline then [10] else []

/-- Whether an argument is a group of options of the program `echo`. -/
def isEchoOption (arg : Bytes) : Bool :=
  match arg with
  | 0x2D :: c :: rest => (c :: rest).all fun d => (raw "neE").contains d
  | _ => false

/-- What the program `echo` prints: it knows escapes only if asked to. -/
def echoProgram (args : List Bytes) : Bytes :=
  let options := (args.takeWhile isEchoOption).flatten
  let text := joined (args.dropWhile isEchoOption)
  let newline := !options.contains 0x6E
  let escapes := (options.filter fun c => c == 0x65 || c == 0x45).getLast? == some 0x65
  if escapes then
    let (out, stopped) := unescape ⟨true, true, true, true⟩ text
    out ++ if newline && !stopped then [10] else []
  else text ++ if newline then [10] else []

/-! ### Formats -/

/-- What printing by a format comes to. -/
structure Printed where
  /-- What is printed, last byte first. -/
  out : Bytes := []
  args : List Bytes
  /-- The arguments that are not the numbers they should be. -/
  faults : List Bytes := []
  stopped : Bool := false

/-- The digits of a number in a base. -/
def inBase (base : Nat) (upper : Bool) (n : Nat) : Bytes :=
  let text := raw (String.ofList (Nat.toDigits base n))
  if upper then text.map fun c => if 97 ≤ c && c ≤ 122 then c - 32 else c else text

/-- A text filled up to a width. -/
def fill (left zero : Bool) (width : Nat) (signs body : Bytes) : Bytes :=
  let missing := width - (signs.length + body.length)
  if left then signs ++ body ++ List.replicate missing 32
  else if zero then signs ++ List.replicate missing 48 ++ body
  else List.replicate missing 32 ++ signs ++ body

/-- The number that an argument stands for, if it is one. -/
def numberOf (arg : Bytes) : Option Int :=
  let digitsOf (text : Bytes) : Option Nat :=
    match text with
    | 0x30 :: 0x78 :: rest | 0x30 :: 0x58 :: rest =>
      match hexadecimal rest.length 0 rest with
      | (n, []) => if rest.isEmpty then none else some n
      | _ => none
    | 0x30 :: rest =>
      match octal rest.length 0 rest with
      | (n, []) => some n
      | _ => none
    | text => if !text.isEmpty && text.all isDigit then some (decimal text) else none
  match arg with
  | [] => some 0
  | 0x22 :: c :: _ | 0x27 :: c :: _ => some c.toNat
  | 0x2D :: rest => (digitsOf rest).map fun n => -(n : Int)
  | 0x2B :: rest => (digitsOf rest).map fun n => (n : Int)
  | text => (digitsOf text).map fun n => (n : Int)

/-- The integer nearest to a quotient; of two that are equally near, the even one. -/
def nearest (n d : Nat) : Nat :=
  let q := n / d
  let r := n % d
  if d < 2 * r || (2 * r == d && q % 2 == 1) then q + 1 else q

/-- A decimal number such as `-1.5` or `2e3` with so many decimal places: whether it is negative,
and its digits; `none` if the text is no number. -/
def fixedPoint (places : Nat) (text : Bytes) : Option (Bool × Bytes) :=
  let (negative, body) := match text with
    | 0x2D :: rest => (true, rest)
    | 0x2B :: rest => (false, rest)
    | rest => (false, rest)
  let whole := body.takeWhile isDigit
  let rest := body.drop whole.length
  let part := match rest with
    | 0x2E :: rest => rest.takeWhile isDigit
    | _ => []
  let rest := if rest.head? == some 0x2E then rest.drop (part.length + 1) else rest
  let (up, down, rest) := match rest with
    | 0x65 :: 0x2D :: rest => (0, decimal (rest.takeWhile isDigit), rest.dropWhile isDigit)
    | 0x65 :: 0x2B :: rest | 0x65 :: rest =>
      (decimal (rest.takeWhile isDigit), 0, rest.dropWhile isDigit)
    | rest => (0, 0, rest)
  if !rest.isEmpty || (whole.isEmpty && part.isEmpty && !text.isEmpty) then none
  else
    let scaled := nearest (decimal (whole ++ part) * Nat.pow 10 (up + places))
      (Nat.pow 10 (part.length + down))
    let ds := digits scaled
    let ds := List.replicate (places + 1 - ds.length) 48 ++ ds
    let cut := ds.length - places
    some (negative, ds.take cut ++ if places == 0 then [] else 0x2E :: ds.drop cut)

/-- The flags, width and precision of a conversion. -/
structure Conversion where
  left : Bool := false
  zero : Bool := false
  plus : Bool := false
  blank : Bool := false
  alternate : Bool := false
  width : Nat := 0
  precision : Option Nat := none

/-- Prints one argument. -/
def convert (extended : Bool) (k : Conversion) (kind : UInt8) (p : Printed) : Printed :=
  let arg := p.args.headD []
  let p := { p with args := p.args.drop 1 }
  let put (signs body : Bytes) (zero : Bool) : Printed :=
    { p with out := (fill k.left zero k.width signs body).reverse ++ p.out }
  let cut (text : Bytes) : Bytes := match k.precision with
    | some n => text.take n
    | none => text
  let padded (text : Bytes) : Bytes := match k.precision with
    | some n => List.replicate (n - text.length) 48 ++ text
    | none => text
  let zero := k.zero && k.precision.isNone
  if kind == 0x73 then put [] (cut arg) false
  else if kind == 0x63 then put [] (arg.take 1) false
  else if kind == 0x62 then
    let (text, stopped) := unescape ⟨true, extended, true, true⟩ arg
    { put [] (cut text) false with stopped }
  else if kind == 0x66 then
    let (value, p) := match fixedPoint (k.precision.getD 6) arg with
      | some value => (value, p)
      | none =>
        ((fixedPoint (k.precision.getD 6) []).getD (false, []),
          { p with faults := p.faults ++ [arg] })
    let signs :=
      if value.1 then raw "-" else if k.plus then raw "+" else if k.blank then raw " " else []
    { p with out := (fill k.left k.zero k.width signs value.2).reverse ++ p.out }
  else
    let (n, p) := match numberOf arg with
      | some n => (n, p)
      | none =>
        (((numberOf (arg.takeWhile isDigit)).getD 0), { p with faults := p.faults ++ [arg] })
    let put (signs body : Bytes) : Printed :=
      { p with out := (fill k.left zero k.width signs body).reverse ++ p.out }
    let unsigned := (UInt64.ofInt n).toNat
    if kind == 0x64 || kind == 0x69 then
      let signs :=
        if n < 0 then raw "-" else if k.plus then raw "+" else if k.blank then raw " " else []
      put signs (padded (inBase 10 false n.natAbs))
    else if kind == 0x6F then
      put (if k.alternate then raw "0" else []) (padded (inBase 8 false unsigned))
    else if kind == 0x78 then
      put (if k.alternate then raw "0x" else []) (padded (inBase 16 false unsigned))
    else if kind == 0x58 then
      put (if k.alternate then raw "0X" else []) (padded (inBase 16 true unsigned))
    else put [] (padded (inBase 10 false unsigned))

/-- Reads the flags of a conversion. -/
def flagsOf (k : Conversion) : Bytes → Conversion × Bytes
  | [] => (k, [])
  | c :: rest =>
    if c == 0x2D then flagsOf { k with left := true } rest
    else if c == 0x30 then flagsOf { k with zero := true } rest
    else if c == 0x2B then flagsOf { k with plus := true } rest
    else if c == 0x20 then flagsOf { k with blank := true } rest
    else if c == 0x23 then flagsOf { k with alternate := true } rest
    else (k, c :: rest)

/-- Reads a number in a conversion, or takes it from the arguments. -/
def measure (p : Printed) (text : Bytes) : Int × Printed × Bytes :=
  match text with
  | 0x2A :: rest => ((numberOf (p.args.headD [])).getD 0, { p with args := p.args.drop 1 }, rest)
  | text => (decimal (text.takeWhile isDigit), p, text.dropWhile isDigit)

/-- Prints by a format once. -/
def printOnce (extended : Bool) : Nat → Bytes → Printed → Printed
  | 0, _, p => p
  | _ + 1, [], p => p
  | fuel + 1, c :: rest, p =>
    if p.stopped then p
    else if c == 0x5C then
      match escape ⟨false, extended, true, extended⟩ rest with
      | .bytes out rest => printOnce extended fuel rest { p with out := out.reverse ++ p.out }
      | .stop => { p with stopped := true }
    else if c == 0x25 then
      match rest with
      | 0x25 :: rest => printOnce extended fuel rest { p with out := 0x25 :: p.out }
      | rest =>
        let (k, rest) := flagsOf {} rest
        let (width, p, rest) := measure p rest
        let k := { k with width := width.natAbs, left := k.left || width < 0 }
        let (k, p, rest) := match rest with
          | 0x2E :: rest =>
            let (precision, p, rest) := measure p rest
            ({ k with precision := if precision < 0 then none else some precision.toNat }, p, rest)
          | rest => (k, p, rest)
        match rest with
        | [] => { p with out := 0x25 :: p.out }
        | kind :: rest =>
          if (raw "diouxXscbf").contains kind then
            printOnce extended fuel rest (convert extended k kind p)
          else { p with out := p.out, faults := p.faults ++ [0x25 :: [kind]], stopped := true }
    else printOnce extended fuel rest { p with out := c :: p.out }

/-- Prints by a format until the arguments are used up. -/
def printAll (extended : Bool) (format : Bytes) : Nat → Printed → Printed
  | 0, p => p
  | rounds + 1, p =>
    let q := printOnce extended (format.length + 1) format p
    if q.stopped || q.args.isEmpty || q.args.length == p.args.length then q
    else printAll extended format rounds q

/-- What is printed by a format with arguments, and which of them are not the numbers they should
be. -/
def printed (extended : Bool) (format : Bytes) (args : List Bytes) : Bytes × List Bytes :=
  let p := printAll extended format (args.length + 1) { args }
  (p.out.reverse, p.faults)

end Coprocess.Tools
