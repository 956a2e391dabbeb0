import Coprocess.Shell.Reader

/-!
# Reading words

Words are read byte by byte into parts.  What ends a word and what is special in it depends on the
place it is read at: by itself, within double quotes, in braces after a parameter, in an arithmetic
expression or in a here-document.
-/

namespace Coprocess.Shell

open Read

/-- Where a word is read. -/
inductive Place where
  | bare
  | doubleQuoted
  /-- In braces after a parameter, in double quotes or not. -/
  | braces (quoted : Bool)
  /-- In an arithmetic expression, at a depth of parentheses. -/
  | arithmetic
  | document
deriving DecidableEq, Repr

namespace Place

/-- Whether expansions are not split there. -/
def isQuoted : Place → Bool
  | bare => false
  | braces quoted => quoted
  | _ => true

end Place

/-- Parts that are being collected, last first; the bytes of literal parts are last first as
well. -/
abbrev Collected := List Part

/-- Adds a literal byte. -/
def addLiteral (parts : Collected) (c : UInt8) : Collected :=
  match parts with
  | .literal text :: rest => .literal (c :: text) :: rest
  | parts => .literal [c] :: parts

/-- Adds quoted bytes, given last first. -/
def addQuoted (parts : Collected) (text : Bytes) : Collected :=
  match parts with
  | .quoted before :: rest => .quoted (text ++ before) :: rest
  | parts => .quoted text :: parts

/-- Adds a byte as the place says. -/
def addByte (place : Place) (parts : Collected) (c : UInt8) : Collected :=
  if place.isQuoted then addQuoted parts [c] else addLiteral parts c

/-- The parts that were collected, in order. -/
def collected (parts : Collected) : Word :=
  parts.reverse.map fun
    | .literal text => .literal text.reverse
    | .quoted text => .quoted text.reverse
    | p => p

/-- The bytes that end a bare word. -/
def endsWord (c : UInt8) : Bool := (raw " \t\n;&|()<>").contains c

/-- The rest of a text in single quotes, last byte first. -/
def singleQuoted (acc : Bytes) : Nat → Read Bytes
  | 0 => Read.fail (raw "Syntax error: Unterminated quoted string")
  | fuel + 1 => do
    match ← next? with
    | none => atEnd "Syntax error: Unterminated quoted string"
    | some 0x27 => return acc
    | some c => singleQuoted (c :: acc) fuel

/-- The text up to a closing backquote, with the backslashes that only protect it removed. -/
def backquoted (quoted : Bool) (acc : Bytes) : Nat → Read Bytes
  | 0 => Read.fail (raw "Syntax error: EOF in backquote substitution")
  | fuel + 1 => do
    match ← next? with
    | none => atEnd "Syntax error: EOF in backquote substitution"
    | some 0x60 => return acc.reverse
    | some 0x5C =>
      match ← next? with
      | none => atEnd "Syntax error: EOF in backquote substitution"
      | some c =>
        if c == 10 then backquoted quoted acc fuel
        else if c == 0x5C || c == 0x60 || c == 0x24 || (quoted && c == 0x22) then
          backquoted quoted (c :: acc) fuel
        else backquoted quoted (c :: 0x5C :: acc) fuel
    | some c => backquoted quoted (c :: acc) fuel

/-- The modifier that follows a name in braces. -/
def modifier : Read Modifier := do
  let colon ← accept 0x3A
  match ← next? with
  | some 0x2D => return .orElse colon
  | some 0x3D => return .assign colon
  | some 0x3F => return .orFail colon
  | some 0x2B => return .ifSet colon
  | some 0x25 => if colon then return .bad else return .dropSuffix (← accept 0x25)
  | some 0x23 => if colon then return .bad else return .dropPrefix (← accept 0x23)
  | _ => return .bad

/-- The name of a parameter in braces. -/
def bracedName : Read Bytes := do
  match ← peek? with
  | none => return []
  | some c =>
    if isNameStart c then takeWhile isNameByte
    else if isDigit c then takeWhile isDigit
    else if isSpecial c then
      let _ ← next?
      return [c]
    else return []

/-- Reads back what an announced here-document holds, line by line. -/
def documentLines (a : Announced) (acc : Bytes) : Nat → Read Bytes
  | 0 => return acc
  | fuel + 1 => do
    let s ← get
    if s.rest.isEmpty then
      if s.whole then return acc else throw .incomplete
    else
      let line := s.rest.takeWhile (· != 10)
      let ended := line.length < s.rest.length
      if !ended && !s.whole then throw .incomplete
      else
        set { s with rest := s.rest.drop (line.length + 1), line := s.line + 1 }
        let shown := if a.strip then line.dropWhile (· == 9) else line
        if shown == a.delimiter then return acc
        else documentLines a ((if ended then [10] else []) ++ shown.reverse ++ acc) fuel

/-- Reads parts until the place ends.  `commands` reads a command list up to a closing parenthesis,
and `sub` reads all of a text as commands. -/
def wordParts (commands : Read Command) (sub : Bytes → Read Command) (place : Place) :
    Nat → Nat → Collected → Read Collected
  | 0, _, parts => return parts
  | fuel + 1, depth, parts => do
    let go := wordParts commands sub place fuel
    let s ← get
    match s.rest with
    | [] =>
      if !s.whole then throw .incomplete
      else match place with
        | .bare | .document => return parts
        | .doubleQuoted => Read.fail (raw "Syntax error: Unterminated quoted string")
        | .braces true => Read.fail (raw "Syntax error: Unterminated quoted string")
        | .braces false => Read.fail (raw "Syntax error: Missing '\x7d'")
        | .arithmetic => Read.fail (raw "Syntax error: Missing '))'")
    | 0x5C :: 10 :: rest =>
      set { s with rest, line := s.line + 1 }
      go depth parts
    | c :: rest =>
      let take : Read Unit := set { s with rest, line := if c == 10 then s.line + 1 else s.line }
      if place == .bare && endsWord c then return parts
      else if place == .doubleQuoted && c == 0x22 then do
        take
        return parts
      else if (match place with | .braces _ => true | _ => false) && c == 0x7D then do
        take
        return parts
      else if c == 0x5C then do
        take
        match ← next? with
        | none => go depth (addQuoted parts [c])
        | some d =>
          let special := match place with
            | .bare | .braces false => true
            | .doubleQuoted => (raw "\\\x60$\"").contains d
            | .braces true => (raw "\\\x60$\"\x7d").contains d
            | .arithmetic | .document => (raw "\\\x60$").contains d
          if special then go depth (addQuoted parts [d]) else go depth (addQuoted parts [d, c])
      else if c == 0x27 && (place == .bare || place == .braces false) then do
        take
        let text ← singleQuoted [] (← Read.fuel)
        go depth (addQuoted parts text)
      else if c == 0x22 && place != .document && place != .doubleQuoted then do
        take
        -- Double quotes mean nothing in arithmetic.
        if place == .arithmetic then go depth parts
        else
          match ← wordParts commands sub .doubleQuoted fuel 0 [] with
          -- The parameters in quotes may be no field at all, so no empty one is added.
          | [.parameter [0x40] m word quoted] => go depth (.parameter [0x40] m word quoted :: parts)
          | inner => go depth (inner ++ addQuoted parts [])
      else if c == 0x60 then do
        take
        let body ← sub (← backquoted (place == .doubleQuoted) [] (← Read.fuel))
        go depth (.substitution body place.isQuoted :: parts)
      else if c == 0x24 then do
        take
        joinLines fuel
        match (← get).rest with
        | [] => if (← get).whole then go depth (addByte place parts c) else throw .incomplete
        | 0x28 :: 0x28 :: _ =>
          let _ ← next?
          let _ ← next?
          let inner ← wordParts commands sub .arithmetic fuel 0 []
          go depth (.arithmetic (collected inner) place.isQuoted :: parts)
        | 0x28 :: _ =>
          let _ ← next?
          let body ← commands
          go depth (.substitution body place.isQuoted :: parts)
        | 0x7B :: _ =>
          let _ ← next?
          joinLines fuel
          let part ← do
            if (← peek?) == some 0x23 && (match (← get).rest with
                | _ :: d :: _ => d != 0x7D && d != 0x3A && (isNameByte d || isSpecial d)
                | _ => false) then
              let _ ← next?
              let name ← bracedName
              if ← accept 0x7D then pure (Part.parameter name .length [] place.isQuoted)
              else
                let word ← wordParts commands sub (.braces place.isQuoted) fuel 0 []
                pure (Part.parameter name .bad (collected word) place.isQuoted)
            else
              let name ← bracedName
              joinLines fuel
              if name.isEmpty then
                let word ← wordParts commands sub (.braces place.isQuoted) fuel 0 []
                pure (Part.parameter name .bad (collected word) place.isQuoted)
              else if ← accept 0x7D then pure (Part.parameter name .value [] place.isQuoted)
              else
                let m ← modifier
                let within := match m with
                  -- Patterns are read as if they stood outside quotes.
                  | .dropSuffix _ | .dropPrefix _ => Place.braces false
                  | _ => .braces place.isQuoted
                let word ← wordParts commands sub within fuel 0 []
                pure (Part.parameter name m (collected word) place.isQuoted)
          go depth (part :: parts)
        | d :: _ =>
          if isNameStart d then
            let name ← takeWhile isNameByte
            go depth (.parameter name .value [] place.isQuoted :: parts)
          else if isDigit d || isSpecial d then
            let _ ← next?
            go depth (.parameter [d] .value [] place.isQuoted :: parts)
          else go depth (addByte place parts c)
      else if place == .arithmetic && c == 0x28 then do
        take
        go (depth + 1) (addQuoted parts [c])
      else if place == .arithmetic && c == 0x29 then do
        take
        if 0 < depth then go (depth - 1) (addQuoted parts [c])
        else if ← accept 0x29 then return parts
        else Read.fail (raw "Syntax error: Missing '))'")
      else do
        take
        go depth (addByte place parts c)

/-- The text of a word in which nothing is quoted or expanded. -/
def plainText (w : Word) : Option Bytes :=
  match w with
  | [.literal text] => some text
  | _ => none

/-- The bytes of a word with its quotes removed, as far as nothing in it is expanded. -/
def unquotedText (w : Word) : Bytes :=
  w.flatMap fun
    | .literal text | .quoted text => text
    | _ => []

/-- Whether some part of a word is quoted. -/
def hasQuotes (w : Word) : Bool :=
  w.any fun
    | .quoted _ => true
    | _ => false

end Coprocess.Shell
