import Coprocess.Tools.Regex
import Coprocess.Tools.Tool

/-!
# Evaluating arguments

`expr` evaluates its arguments as an expression over integers and texts and prints the value.  Every
level of the grammar takes its operands from the next tighter one; the operators of a level are
applied from left to right.
-/

namespace Coprocess.Tools

open Host Shell

/-- Why arguments have no value. -/
inductive EvaluationError where
  | missingArgument (after : Bytes)
  | unexpectedArgument (arg : Bytes)
  | missingClose (after : Bytes)
  | notInteger
  | divisionByZero
  | badPattern

/-- The wording of the reason. -/
def EvaluationError.message : EvaluationError → Bytes
  | missingArgument after => raw "syntax error: missing argument after '" ++ after ++ raw "'"
  | unexpectedArgument arg => raw "syntax error: unexpected argument '" ++ arg ++ raw "'"
  | missingClose after => raw "syntax error: expecting ')' after '" ++ after ++ raw "'"
  | notInteger => raw "non-integer argument"
  | divisionByZero => raw "division by zero"
  | badPattern => raw "Invalid regular expression"

namespace Evaluation

/-- A value, and the arguments that are left. -/
abbrev Result := Except EvaluationError (Bytes × List Bytes)

/-- The integer that a text is. -/
def integer? (text : Bytes) : Option Int :=
  match text with
  | 0x2D :: ds => if !ds.isEmpty && ds.all isDigit then some (-(decimal ds : Int)) else none
  | ds => if !ds.isEmpty && ds.all isDigit then some (decimal ds) else none

/-- The text of an integer. -/
def written (n : Int) : Bytes := raw (toString n)

/-- Whether a value counts as nothing. -/
def isNull (v : Bytes) : Bool := v.isEmpty || integer? v == some 0

/-- What a pattern at the front of a text matches: its first group if it has any, else its
length. -/
def matched (text pattern : Bytes) : Except EvaluationError Bytes :=
  match Regex.ofText? false pattern with
  | none => .error .badPattern
  | some r =>
    let grouped := Bytes.hasPart (raw "\\(") pattern
    match Regex.longest (Regex.run text.length r { rest := text }) with
    | some s =>
      if grouped then .ok (((s.groups.find? (·.1 == 1)).map (·.2)).getD [])
      else .ok (digits (text.length - s.rest.length))
    | none => .ok (if grouped then [] else raw "0")

/-- The operators from the loosest level to the tightest. -/
def levels : List (List String) :=
  [["|"], ["&"], ["<", "<=", "=", "==", "!=", ">=", ">"], ["+", "-"], ["*", "/", "%"], [":"]]

/-- The value of an operation. -/
def apply (op : Bytes) (x y : Bytes) : Except EvaluationError Bytes :=
  let truth (p : Bool) : Except EvaluationError Bytes := .ok (raw (if p then "1" else "0"))
  let compare (o : Ordering → Bool) : Except EvaluationError Bytes :=
    truth (o (match integer? x, integer? y with
      | some n, some m => Ord.compare n m
      | _, _ => Ord.compare (x.map UInt8.toNat) (y.map UInt8.toNat)))
  let arithmetic (f : Int → Int → Except EvaluationError Int) : Except EvaluationError Bytes :=
    match integer? x, integer? y with
    | some n, some m => (f n m).map written
    | _, _ => .error .notInteger
  if op == raw "|" then .ok (if !isNull x then x else if !isNull y then y else raw "0")
  else if op == raw "&" then .ok (if isNull x || isNull y then raw "0" else x)
  else if op == raw "<" then compare (·.isLT)
  else if op == raw "<=" then compare (·.isLE)
  else if op == raw "=" || op == raw "==" then compare (·.isEq)
  else if op == raw "!=" then compare (·.isNe)
  else if op == raw ">=" then compare (·.isGE)
  else if op == raw ">" then compare (·.isGT)
  else if op == raw "+" then arithmetic fun n m => .ok (n + m)
  else if op == raw "-" then arithmetic fun n m => .ok (n - m)
  else if op == raw "*" then arithmetic fun n m => .ok (n * m)
  else if op == raw "/" then
    arithmetic fun n m => if m == 0 then .error .divisionByZero else .ok (Int.tdiv n m)
  else if op == raw "%" then
    arithmetic fun n m => if m == 0 then .error .divisionByZero else .ok (Int.tmod n m)
  else matched x y

mutual

/-- The value at a level, the tighter ones included; `before` is the last argument that was
taken. -/
def level (before : Bytes) (args : List Bytes) : Nat → List (List String) → Result
  | 0, _ => .error (.missingArgument before)
  | fuel + 1, [] => primary before args fuel
  | fuel + 1, ops :: tighter => do
    let (x, rest) ← level before args fuel tighter
    applyOn x rest fuel ops tighter

/-- Goes on behind the first operand of a level. -/
def applyOn (x : Bytes) (args : List Bytes) : Nat → List String → List (List String) → Result
  | 0, _, _ => .ok (x, args)
  | fuel + 1, ops, tighter =>
    match args with
    | op :: rest =>
      if ops.any fun o => raw o == op then do
        let (y, rest) ← level op rest fuel tighter
        applyOn (← apply op x y) rest fuel ops tighter
      else .ok (x, args)
    | [] => .ok (x, [])

/-- An operand: parentheses, an operation with a name, or an argument. -/
def primary (before : Bytes) (args : List Bytes) : Nat → Result
  | 0 => .error (.missingArgument before)
  | fuel + 1 =>
    match args with
    | [] => .error (.missingArgument before)
    | first :: rest =>
      if first == raw "(" then do
        let (v, rest) ← level first rest fuel levels
        match rest with
        | close :: rest =>
          if close == raw ")" then .ok (v, rest) else .error (.unexpectedArgument close)
        | [] => .error (.missingClose v)
      else if first == raw ")" then .error (.unexpectedArgument first)
      else if first == raw "+" then
        match rest with
        | v :: rest => .ok (v, rest)
        | [] => .error (.missingArgument first)
      else if first == raw "length" then do
        let (v, rest) ← primary first rest fuel
        .ok (digits v.length, rest)
      else if first == raw "match" then do
        let (v, rest) ← primary first rest fuel
        let (pattern, rest) ← primary v rest fuel
        .ok (← matched v pattern, rest)
      else if first == raw "index" then do
        let (v, rest) ← primary first rest fuel
        let (set, rest) ← primary v rest fuel
        .ok (digits (((v.findIdx? set.contains).map (· + 1)).getD 0), rest)
      else if first == raw "substr" then do
        let (v, rest) ← primary first rest fuel
        let (start, rest) ← primary v rest fuel
        let (count, rest) ← primary start rest fuel
        match integer? start, integer? count with
        | some n, some m =>
          .ok (if n ≤ 0 || m ≤ 0 then [] else (v.drop (n.toNat - 1)).take m.toNat, rest)
        | _, _ => .ok ([], rest)
      else .ok (first, rest)

end

/-- The value of all arguments. -/
def ofArguments (args : List Bytes) : Except EvaluationError Bytes := do
  let (v, rest) ← level [] args (16 * args.length + 16) levels
  match rest with
  | [] => .ok v
  | extra :: _ => .error (.unexpectedArgument extra)

end Evaluation

/-- Prints the value of its arguments; a value that counts as nothing makes it fail. -/
def expr : Tool := fun argv _ =>
  let args := if (argv.drop 1).head? == some (raw "--") then argv.drop 2 else argv.drop 1
  match args with
  | [] => Tool.misused argv (raw "missing operand") 2
  | args =>
    match Evaluation.ofArguments args with
    | .ok v => do
      let status ← Tool.prints argv (v ++ [10])
      return if status != 0 then 3 else if Evaluation.isNull v then 1 else 0
    | .error reason => do
      let _ ← Tool.complains argv reason.message
      return 2

end Coprocess.Tools
