import Coprocess.Bytes

/-!
# Shell commands

The abstract syntax of the command language.  A word is a list of parts; what is quoted stays as it
is, and the rest may still be split into fields or taken as a pattern.  A here-document is known by
a number while the command it belongs to is read, since its text follows only on the next lines.
-/

namespace Coprocess.Shell

/-- How a redirection binds its descriptor. -/
inductive RedirectKind where
  | input
  | output
  | append
  | readWrite
  /-- To a descriptor, or to none. -/
  | duplicate
  | document (number : Nat)
deriving DecidableEq, Repr, Inhabited

/-- What is done with the value of a parameter. -/
inductive Modifier where
  | value
  | length
  /-- Takes the word if the parameter is unset, or null with a colon. -/
  | orElse (colon : Bool)
  /-- The same, and assigns it. -/
  | assign (colon : Bool)
  /-- Fails with the word as message. -/
  | orFail (colon : Bool)
  /-- Takes the word if the parameter is set, and not null with a colon. -/
  | ifSet (colon : Bool)
  | dropSuffix (longest : Bool)
  | dropPrefix (longest : Bool)
  /-- A form that the language does not have. -/
  | bad
deriving DecidableEq, Repr, Inhabited

mutual

/-- A part of a word. -/
inductive Part where
  | literal (text : Bytes)
  | quoted (text : Bytes)
  | parameter (name : Bytes) (modifier : Modifier) (word : List Part) (quoted : Bool)
  | substitution (body : Command) (quoted : Bool)
  | arithmetic (expression : List Part) (quoted : Bool)

/-- A redirection of a descriptor. -/
inductive Redirect where
  | mk (fd : Nat) (kind : RedirectKind) (target : List Part)

/-- A command, or several. -/
inductive Command where
  | empty
  | simple (line : Nat) (assignments : List (Bytes × List Part)) (words : List (List Part))
      (redirects : List Redirect)
  | pipeline (commands : List Command)
  | negated (body : Command)
  | both (first second : Command)
  | either (first second : Command)
  | sequence (first second : Command)
  | background (body : Command)
  | subshell (body : Command)
  | conditional (condition body otherwise : Command)
  | whileLoop (wanted : Bool) (condition body : Command)
  | forLoop (name : Bytes) (words : Option (List (List Part))) (body : Command)
  | choice (line : Nat) (word : List Part) (items : List (List (List Part) × Command))
  | function (name : Bytes) (body : Command)
  | redirected (line : Nat) (body : Command) (redirects : List Redirect)

end

instance : Inhabited Part := ⟨.literal []⟩
instance : Inhabited Redirect := ⟨.mk 0 .input []⟩
instance : Inhabited Command := ⟨.empty⟩

/-- A word. -/
abbrev Word := List Part

/-! ### Names -/

/-- The bytes of a text. -/
def raw (s : String) : Bytes := Bytes.ofText s

/-- Whether a byte can begin a name. -/
def isNameStart (c : UInt8) : Bool := (65 ≤ c && c ≤ 90) || (97 ≤ c && c ≤ 122) || c == 95

/-- Whether a byte is a decimal digit. -/
def isDigit (c : UInt8) : Bool := 48 ≤ c && c ≤ 57

/-- Whether a byte can go on in a name. -/
def isNameByte (c : UInt8) : Bool := isNameStart c || isDigit c

/-- Whether a byte string is a name. -/
def isName (name : Bytes) : Bool :=
  match name with
  | [] => false
  | c :: rest => isNameStart c && rest.all isNameByte

/-- Whether a byte names a special parameter. -/
def isSpecial (c : UInt8) : Bool := (raw "@*#?-$!").contains c

/-- The value of decimal digits. -/
def decimal (digits : Bytes) : Nat := digits.foldl (fun n c => n * 10 + (c.toNat - 48)) 0

/-- The decimal digits of a number. -/
def digits (n : Nat) : Bytes := raw (toString n)

end Coprocess.Shell
