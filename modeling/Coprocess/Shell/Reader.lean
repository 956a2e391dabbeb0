import Coprocess.Shell.Syntax

/-!
# Readers

What reading a command text carries along: what is left of it, the line, and the here-documents that
are announced or were met.  A reading step either yields something, or finds the text wrong, or
finds that it goes on beyond its end, which is wrong only if there is no more to come.
-/

namespace Coprocess.Shell

/-- Why no command could be read. -/
inductive Trouble where
  /-- The text ends too early, and there may be more. -/
  | incomplete
  /-- The text is no command. -/
  | wrong (line : Nat) (message : Bytes)
deriving Repr, Inhabited

/-- A here-document that is announced but was not met yet. -/
structure Announced where
  number : Nat
  delimiter : Bytes
  /-- Whether leading tabs are dropped. -/
  strip : Bool
  /-- Whether the text is taken as it is. -/
  quoted : Bool
deriving Inhabited

/-- A token. -/
inductive Token where
  | eof
  | newline
  | operator (text : String)
  | redirect (fd : Option Nat) (text : String)
  /-- A word, and its text if nothing in it is quoted or expanded. -/
  | word (parts : Word) (plain : Option Bytes)
deriving Inhabited

/-- What reading carries along. -/
structure Reader where
  rest : Bytes
  line : Nat := 1
  /-- Whether there is nothing beyond the end of the text. -/
  whole : Bool := true
  peeked : Option Token := none
  announced : List Announced := []
  documents : List (Nat × Word) := []
  nextDocument : Nat := 0
deriving Inhabited

/-- A reading step. -/
abbrev Read := StateT Reader (Except Trouble)

namespace Read

/-- The text is wrong here. -/
def fail {α : Type} (message : Bytes) : Read α := do
  throw (.wrong (← get).line message)

/-- The text ends where it should not. -/
def atEnd {α : Type} (message : String) : Read α := do
  if (← get).whole then fail (raw message) else throw .incomplete

/-- Takes a byte off the text. -/
def next? : Read (Option UInt8) := do
  let s ← get
  match s.rest with
  | [] => if s.whole then return none else throw .incomplete
  | c :: rest =>
    set { s with rest, line := if c == 10 then s.line + 1 else s.line }
    return some c

/-- Looks at the next byte. -/
def peek? : Read (Option UInt8) := do
  let s ← get
  match s.rest with
  | [] => if s.whole then return none else throw .incomplete
  | c :: _ => return some c

/-- Takes the next byte if it is the given one. -/
def accept (c : UInt8) : Read Bool := do
  if (← peek?) == some c then
    let _ ← next?
    return true
  else return false

/-- Drops line continuations. -/
def joinLines : Nat → Read Unit
  | 0 => pure ()
  | fuel + 1 => do
    let s ← get
    match s.rest with
    | 0x5C :: 10 :: rest =>
      set { s with rest, line := s.line + 1 }
      joinLines fuel
    | [0x5C] => if s.whole then pure () else throw .incomplete
    | _ => pure ()

/-- Takes bytes as long as a test holds, put on top of `acc`. -/
def takeOnto (test : UInt8 → Bool) (acc : Bytes) : Nat → Read Bytes
  | 0 => return acc
  | fuel + 1 => do
    joinLines (fuel + 1)
    match ← peek? with
    | some c =>
      if test c then
        let _ ← next?
        takeOnto test (c :: acc) fuel
      else return acc
    | none => return acc

/-- Takes bytes as long as a test holds. -/
def takeWhile (test : UInt8 → Bool) : Read Bytes := do
  return (← takeOnto test [] (← get).rest.length).reverse

/-- Enough fuel for what is left of the text. -/
def fuel : Read Nat := do return 2 * (← get).rest.length + 16

end Read

end Coprocess.Shell
