import Coprocess.Host.Program
import Coprocess.Shell.Syntax

/-!
# Conditions

The conditions of `test`: about files, about texts and about numbers, combined by negation, `-a`,
`-o` and parentheses.  An argument is taken for an operator only where one can stand, so that an
operand that looks like an operator is still an operand.
-/

namespace Coprocess.Tools

open Host Shell

/-- Whether a condition holds, or why it is none. -/
abbrev Verdict := Except Bytes Bool

/-- The unary operators. -/
def unaryOperators : List String :=
  ["-b", "-c", "-d", "-e", "-f", "-g", "-h", "-k", "-L", "-n", "-p", "-r", "-s", "-S", "-t", "-u",
   "-w", "-x", "-z", "-G", "-O"]

/-- The binary operators. -/
def binaryOperators : List String :=
  ["=", "!=", "<", ">", "-eq", "-ne", "-lt", "-le", "-gt", "-ge", "-nt", "-ot", "-ef"]

/-- Whether an argument is one of some operators. -/
def isOneOf (ops : List String) (arg : Bytes) : Bool := ops.any fun op => raw op == arg

/-- The integer that an operand stands for. -/
def operand (arg : Bytes) : Except Bytes Int :=
  let text := arg.dropWhile isBlankByte |>.reverse |>.dropWhile isBlankByte |>.reverse
  let (negative, body) := match text with
    | 0x2D :: rest => (true, rest)
    | 0x2B :: rest => (false, rest)
    | rest => (false, rest)
  if body.isEmpty || !body.all isDigit then .error (raw "Illegal number: " ++ arg)
  else .ok (if negative then -(decimal body : Int) else decimal body)
where
  /-- Whether a byte is a blank. -/
  isBlankByte (c : UInt8) : Bool := c == 32 || (9 ≤ c && c ≤ 13)

/-- Whether a condition on one operand holds. -/
def unary (op arg : Bytes) : Program Verdict := do
  let kindIs (kinds : List FileKind) (follow : Bool) : Program Verdict := do
    match ← Program.request (.fileInfo arg follow) with
    | .ok info => return .ok (kinds.contains info.kind)
    | .error _ => return .ok false
  let may (ways : Nat) : Program Verdict := do
    return .ok (← Program.request (.mayAccess arg ways)).isOk
  if op == raw "-n" then return .ok !arg.isEmpty
  else if op == raw "-z" then return .ok arg.isEmpty
  else if op == raw "-t" then
    match operand arg with
    | .error reason => return .error reason
    | .ok n =>
      if n < 0 then return .ok false
      else return .ok (match ← Program.request (.getModes n.toNat) with
        | .ok _ => true
        | .error _ => false)
  else if op == raw "-d" then kindIs [.directory] true
  else if op == raw "-f" then kindIs [.regular] true
  else if op == raw "-c" then kindIs [.device] true
  else if op == raw "-p" then kindIs [.channel] true
  else if op == raw "-h" || op == raw "-L" then kindIs [.link] false
  else if op == raw "-r" then may 4
  else if op == raw "-w" then may 2
  else if op == raw "-x" then may 1
  else if op == raw "-s" then
    match ← Program.request (.fileInfo arg true) with
    | .ok info => return .ok (0 < info.size)
    | .error _ => return .ok false
  else if op == raw "-e" || op == raw "-O" || op == raw "-G" then
    return .ok (← Program.request (.fileInfo arg true)).isOk
  else return .ok false

/-- Whether a condition on two operands holds. -/
def binary (first op second : Bytes) : Program Verdict := do
  let compare (f : Int → Int → Bool) : Verdict := do return f (← operand first) (← operand second)
  if op == raw "=" then return .ok (first == second)
  else if op == raw "!=" then return .ok (first != second)
  else if op == raw "<" then return .ok (first.map UInt8.toNat < second.map UInt8.toNat)
  else if op == raw ">" then return .ok (second.map UInt8.toNat < first.map UInt8.toNat)
  else if op == raw "-eq" then return compare (· == ·)
  else if op == raw "-ne" then return compare (· != ·)
  else if op == raw "-lt" then return compare fun x y => x < y
  else if op == raw "-le" then return compare fun x y => x ≤ y
  else if op == raw "-gt" then return compare fun x y => y < x
  else if op == raw "-ge" then return compare fun x y => y ≤ x
  else if op == raw "-ef" then
    match ← Program.request (.fileInfo first true), ← Program.request (.fileInfo second true) with
    | .ok x, .ok y => return .ok (x.number == y.number)
    | _, _ => return .ok false
  else return .ok false

/-! ### Reading a condition -/

/-- What an argument is taken for, given the arguments that follow it. -/
inductive ConditionToken where
  | ending
  | operand
  | unary (op : Bytes)
  | binary (op : Bytes)
  | both
  | either
  | negation
  | opening
  | closing
deriving DecidableEq

/-- What the first of some arguments is taken for.  A unary operator without an operand, or before a
binary operator and one more argument, is an operand itself; so is a parenthesis that stands
alone. -/
def conditionToken : List Bytes → ConditionToken
  | [] => .ending
  | arg :: rest =>
    if isOneOf unaryOperators arg then
      match rest with
      | [] => .operand
      | [_] => .unary arg
      | op :: _ => if isOneOf binaryOperators op then .operand else .unary arg
    else if isOneOf binaryOperators arg then .binary arg
    else if arg == raw "-a" then .both
    else if arg == raw "-o" then .either
    else if arg == raw "!" then .negation
    else if arg == raw "(" then (if rest.isEmpty then .operand else .opening)
    else if arg == raw ")" then .closing
    else .operand

/-- The truth of a part of a condition, and the arguments from its last one on; or why it has
none. -/
abbrev ConditionResult := Except Bytes (Bool × List Bytes)

mutual

/-- Alternatives, of which all are read; `before` says whether one of those before held. -/
def alternatives (before : Bool) (t : ConditionToken) (args : List Bytes) :
    Nat → Program ConditionResult
  | 0 => return .error (raw "argument expected")
  | fuel + 1 => do
    match ← requirements true t args fuel with
    | .error reason => return .error reason
    | .ok (v, args) =>
      if conditionToken (args.drop 1) == .either then
        alternatives (before || v) (conditionToken (args.drop 2)) (args.drop 2) fuel
      else return .ok (before || v, args)

/-- Requirements, of which all are read; `before` says whether all before held. -/
def requirements (before : Bool) (t : ConditionToken) (args : List Bytes) :
    Nat → Program ConditionResult
  | 0 => return .error (raw "argument expected")
  | fuel + 1 => do
    match ← negated t args fuel with
    | .error reason => return .error reason
    | .ok (v, args) =>
      if conditionToken (args.drop 1) == .both then
        requirements (before && v) (conditionToken (args.drop 2)) (args.drop 2) fuel
      else return .ok (before && v, args)

/-- A primary, or a negated one. -/
def negated (t : ConditionToken) (args : List Bytes) : Nat → Program ConditionResult
  | 0 => return .error (raw "argument expected")
  | fuel + 1 => do
    if t == .negation then
      let next := conditionToken (args.drop 1)
      match ← negated next (if next == .ending then args else args.drop 1) fuel with
      | .error reason => return .error reason
      | .ok (v, args) => return .ok (!v, args)
    else primary t args fuel

/-- A primary. -/
def primary (t : ConditionToken) (args : List Bytes) : Nat → Program ConditionResult
  | 0 => return .error (raw "argument expected")
  | fuel + 1 => do
    match t with
    | .ending => return .ok (false, args)
    | .opening =>
      let inner := args.drop 1
      if conditionToken inner == .closing then return .ok (false, inner)
      else
        match ← alternatives false (conditionToken inner) inner fuel with
        | .error reason => return .error reason
        | .ok (v, args) =>
          if conditionToken (args.drop 1) == .closing then return .ok (v, args.drop 1)
          else return .error (raw "closing paren expected")
    | .unary op =>
      match args.drop 1 with
      | [] => return .error (op ++ raw ": argument expected")
      | arg :: rest => return (← unary op arg).map fun v => (v, arg :: rest)
    | _ =>
      let first := args.headD []
      match conditionToken (args.drop 1), args.drop 2 with
      | .binary op, [] => return .error (op ++ raw ": argument expected")
      | .binary op, second :: rest =>
        return (← binary first op second).map fun v => (v, second :: rest)
      | _, _ => return .ok (!first.isEmpty, args)

end

/-- Reads arguments as a condition, all of which have to be used. -/
def wholeCondition (t : ConditionToken) (args : List Bytes) : Program Verdict := do
  match ← alternatives false t args (8 * args.length + 8) with
  | .error reason => return .error reason
  | .ok (v, args) =>
    match args with
    | last :: _ :: _ => return .error (last ++ raw ": unexpected operator")
    | _ => return .ok v

/-- Whether the condition that the arguments state holds.  With three arguments, a binary operator
in the middle decides; with three or four, parentheses or a negation around all the others are taken
off first. -/
def condition : List Bytes → Program Verdict
  | [] => return .ok false
  | first :: rest => do
    let args := first :: rest
    let isBinary := match rest with
      | [op, _] => isOneOf binaryOperators op
      | _ => false
    if isBinary then wholeCondition .operand args
    else if rest.length == 2 || rest.length == 3 then
      if first == raw "(" && rest.getLast? == some (raw ")") then
        wholeCondition (conditionToken rest.dropLast) rest.dropLast
      else if first == raw "!" then return (← condition rest).map (!·)
      else wholeCondition (conditionToken args) args
    else wholeCondition (conditionToken args) args

end Coprocess.Tools
