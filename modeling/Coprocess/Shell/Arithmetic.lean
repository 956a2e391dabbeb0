import Coprocess.Shell.Syntax

/-!
# Arithmetic

Expressions over 64-bit integers, with the operators of the command language and their precedence.
Evaluation goes along with reading: a side that is not needed is read with `skip`, which keeps it
from assigning and from failing.  Variables are looked up and assigned through a list of names and
values.
-/

namespace Coprocess.Shell

/-- Why an expression has no value. -/
inductive ArithmeticError where
  | expectedEnd
  | expectedPrimary
  | expectedOperand (what : String)
  | divisionByZero
  /-- A variable's text is no number. -/
  | badNumber (text : Bytes)
deriving Repr

/-- The wording of the reason, for an expression. -/
def ArithmeticError.message (expression : Bytes) : ArithmeticError → Bytes
  | expectedEnd => about "expecting EOF"
  | expectedPrimary => about "expecting primary"
  | expectedOperand what => about ("expecting " ++ what)
  | divisionByZero => about "division by zero"
  | badNumber text => raw "Illegal number: " ++ text
where
  /-- What is wrong with the expression. -/
  about (what : String) : Bytes := raw ("arithmetic expression: " ++ what ++ ": \"") ++
    expression ++ raw "\""

namespace Arithmetic

/-- What evaluation carries along: the text that is left, and the variables. -/
structure Machine where
  rest : Bytes
  lookup : Bytes → Bytes
  /-- What was assigned, last first. -/
  assigned : List (Bytes × Bytes) := []

/-- An evaluation step. -/
abbrev Eval := StateT Machine (Except ArithmeticError)

/-- An integer brought into 64 bits. -/
def wrap (n : Int) : Int := n.bmod UInt64.size

/-- Skips blanks. -/
def skipBlanks : Eval Unit :=
  modify fun m => { m with rest := m.rest.dropWhile fun c => c == 32 || c == 9 || c == 10 }

/-- Takes an operator if the text goes on with it, and not with one of the longer ones. -/
def accept (op : String) (longer : List String) : Eval Bool := do
  skipBlanks
  let m ← get
  if (raw op).isPrefixOf m.rest && !longer.any fun l => (raw l).isPrefixOf m.rest then
    set { m with rest := m.rest.drop op.length }
    return true
  else return false

/-- The value of digits in a base, and what follows them. -/
def number (base : Nat) (acc : Nat) : Bytes → Nat × Bytes
  | [] => (acc, [])
  | c :: rest =>
    let digit := if isDigit c then c.toNat - 48
      else if 97 ≤ c && c ≤ 122 then c.toNat - 87
      else if 65 ≤ c && c ≤ 90 then c.toNat - 55 else base
    if digit < base then number base (acc * base + digit) rest else (acc, c :: rest)

/-- The value of a number at the front of a text. -/
def constant (text : Bytes) : Nat × Bytes :=
  match text with
  | 0x30 :: x :: rest => if x == 0x78 || x == 0x58 then number 16 0 rest else number 8 0 (x :: rest)
  | text => number 10 0 text

/-- The value of a variable's text. -/
def valueOf (text : Bytes) : Except ArithmeticError Int :=
  let isBlank (c : UInt8) : Bool := c == 32 || (9 ≤ c && c ≤ 13)
  let (negative, body) := match text.dropWhile isBlank with
    | 0x2D :: rest => (true, rest)
    | 0x2B :: rest => (false, rest)
    | body => (false, body)
  if text.isEmpty then .ok 0
  else if !body.head?.any isDigit then .error (.badNumber text)
  else
    let (n, rest) := constant body
    if (rest.dropWhile isBlank).isEmpty then .ok (wrap (if negative then -(n : Int) else n))
    else .error (.badNumber text)

/-- The value of a variable. -/
def read (name : Bytes) : Eval Int := do
  let m ← get
  let text := match m.assigned.find? (·.1 == name) with
    | some (_, v) => v
    | none => m.lookup name
  match valueOf text with
  | .ok n => return n
  | .error reason => throw reason

/-- Assigns a variable, unless the side is skipped. -/
def assign (skip : Bool) (name : Bytes) (n : Int) : Eval Unit :=
  if skip then pure ()
  else modify fun m => { m with assigned := (name, raw (toString n)) :: m.assigned }

/-- One if a statement is true, else zero. -/
def truth (p : Bool) : Int := if p then 1 else 0

/-- The bitwise operations, through the 64-bit form. -/
def bitwise (f : UInt64 → UInt64 → UInt64) (x y : Int) : Int :=
  wrap (f (UInt64.ofInt x) (UInt64.ofInt y)).toNat

/-- The value of a binary operation. -/
def apply (skip : Bool) (op : String) (x y : Int) : Eval Int :=
  match op with
  | "*" => return wrap (x * y)
  | "/" =>
    if y == 0 then (if skip then return 0 else throw .divisionByZero)
    else return wrap (Int.tdiv x y)
  | "%" =>
    if y == 0 then (if skip then return 0 else throw .divisionByZero)
    else return wrap (Int.tmod x y)
  | "+" => return wrap (x + y)
  | "-" => return wrap (x - y)
  | "<<" => return bitwise (fun a n => a <<< (n % 64)) x y
  | ">>" => return wrap (x >>> ((UInt64.ofInt y).toNat % 64))
  | "<=" => return truth (x ≤ y)
  | ">=" => return truth (y ≤ x)
  | "<" => return truth (x < y)
  | ">" => return truth (y < x)
  | "==" => return truth (x == y)
  | "!=" => return truth (x != y)
  | "&" => return bitwise (· &&& ·) x y
  | "^" => return bitwise (· ^^^ ·) x y
  | _ => return bitwise (· ||| ·) x y

/-- The binary operators from the tightest level on, each with the longer ones that begin alike. -/
def levels : List (List (String × List String)) := [
  [("*", ["*="]), ("/", ["/="]), ("%", ["%="])],
  [("+", ["+="]), ("-", ["-="])],
  [("<<", ["<<="]), (">>", [">>="])],
  [("<=", []), (">=", []), ("<", ["<<"]), (">", [">>"])],
  [("==", []), ("!=", [])],
  [("&", ["&&", "&="])],
  [("^", ["^="])],
  [("|", ["||", "|="])]]

/-- The operators that assign, with the operation that they carry out first. -/
def assignments : List (String × Option String) := [
  ("<<=", some "<<"), (">>=", some ">>"), ("*=", some "*"), ("/=", some "/"), ("%=", some "%"),
  ("+=", some "+"), ("-=", some "-"), ("&=", some "&"), ("^=", some "^"), ("|=", some "|"),
  ("=", none)]

mutual

/-- An assignment or a conditional expression. -/
def expression (fuel : Nat) (skip : Bool) : Eval Int :=
  match fuel with
  | 0 => throw .expectedPrimary
  | fuel + 1 => do
    skipBlanks
    let m ← get
    let name := m.rest.takeWhile isNameByte
    if isName name then
      set { m with rest := m.rest.drop name.length }
      match ← assignmentOp assignments with
      | some op =>
        let y ← expression fuel skip
        let value ← match op with
          | none => pure y
          | some op => do apply skip op (← read name) y
        assign skip name value
        return value
      | none =>
        set m
        conditional fuel skip
    else conditional fuel skip

/-- Takes an operator that assigns. -/
def assignmentOp (ops : List (String × Option String)) : Eval (Option (Option String)) :=
  match ops with
  | [] => return none
  | (op, operation) :: rest => do
    if ← accept op (if op == "=" then ["=="] else []) then return some operation
    else assignmentOp rest

/-- A choice between two values. -/
def conditional (fuel : Nat) (skip : Bool) : Eval Int :=
  match fuel with
  | 0 => throw .expectedPrimary
  | fuel + 1 => do
    let c ← disjunction fuel skip
    if ← accept "?" [] then
      let x ← expression fuel (skip || c == 0)
      if !(← accept ":" []) then throw (.expectedOperand "':'")
      let y ← conditional fuel (skip || c != 0)
      return if c != 0 then x else y
    else return c

/-- Alternatives, of which the first that holds decides. -/
def disjunction (fuel : Nat) (skip : Bool) : Eval Int :=
  match fuel with
  | 0 => throw .expectedPrimary
  | fuel + 1 => do
    let x ← conjunction fuel skip
    if ← accept "||" [] then
      let y ← disjunction fuel (skip || x != 0)
      return truth (x != 0 || y != 0)
    else return x

/-- Requirements, of which the first that fails decides. -/
def conjunction (fuel : Nat) (skip : Bool) : Eval Int :=
  match fuel with
  | 0 => throw .expectedPrimary
  | fuel + 1 => do
    let x ← binary fuel skip levels.reverse
    if ← accept "&&" [] then
      let y ← conjunction fuel (skip || x == 0)
      return truth (x != 0 && y != 0)
    else return x

/-- An expression of the binary operators of the given levels, loosest first. -/
def binary (fuel : Nat) (skip : Bool) (ls : List (List (String × List String))) : Eval Int :=
  match fuel with
  | 0 => throw .expectedPrimary
  | fuel + 1 =>
    match ls with
    | [] => unary fuel skip
    | level :: tighter => do binaryOnto fuel skip level tighter (← binary fuel skip tighter)

/-- Goes on after the first operand at a level. -/
def binaryOnto (fuel : Nat) (skip : Bool) (level : List (String × List String))
    (tighter : List (List (String × List String))) (x : Int) : Eval Int :=
  match fuel with
  | 0 => return x
  | fuel + 1 => do
    match ← operatorOf level with
    | none => return x
    | some op =>
      let y ← binary fuel skip tighter
      binaryOnto fuel skip level tighter (← apply skip op x y)

/-- Takes an operator of a level. -/
def operatorOf (level : List (String × List String)) : Eval (Option String) :=
  match level with
  | [] => return none
  | (op, longer) :: rest => do
    if ← accept op longer then return some op else operatorOf rest

/-- An operand with the operators before it. -/
def unary (fuel : Nat) (skip : Bool) : Eval Int :=
  match fuel with
  | 0 => throw .expectedPrimary
  | fuel + 1 => do
    if ← accept "!" ["!="] then return truth ((← unary fuel skip) == 0)
    else if ← accept "~" [] then return -(← unary fuel skip) - 1
    else if ← accept "-" [] then return wrap (-(← unary fuel skip))
    else if ← accept "+" [] then unary fuel skip
    else if ← accept "(" [] then
      let x ← expression fuel skip
      if !(← accept ")" []) then throw (.expectedOperand "')'")
      return x
    else
      let m ← get
      let name := m.rest.takeWhile isNameByte
      if isName name then
        set { m with rest := m.rest.drop name.length }
        if skip then return 0 else read name
      else match name with
        | [] => throw .expectedPrimary
        | _ =>
          let (n, rest) := constant m.rest
          set { m with rest }
          return wrap n

end

/-- The value of an expression, and what it assigned, last first. -/
def evaluate (lookup : Bytes → Bytes) (text : Bytes) :
    Except ArithmeticError (Int × List (Bytes × Bytes)) := do
  let fuel := 24 * text.length + 64
  let whole : Eval Int := do
    skipBlanks
    if (← get).rest.isEmpty then return 0
    let x ← expression fuel false
    skipBlanks
    if (← get).rest.isEmpty then return x else throw .expectedEnd
  let (n, m) ← whole.run { rest := text, lookup }
  return (n, m.assigned)

end Arithmetic

end Coprocess.Shell
