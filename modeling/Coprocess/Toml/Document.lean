import Coprocess.Toml.Scalar
import Coprocess.Toml.Table

/-!
# Settings documents

A document is a sequence of lines, each empty, a key with its value, or the header of a table that
the following keys belong to.  Within brackets and braces a value may span lines and end in a comma.
`parse` is `none` for a text that is no document; how it fails is not told apart.

Values nest to a fixed depth (`maxDepth`), and the reader for values recurses on what is left of it.
-/

namespace Coprocess.Toml

/-- How deep arrays and inline tables may nest. -/
def maxDepth : Nat := 79

/-! ### Between the values -/

/-- Skips a comment, up to its line end. -/
def skipComment (cs : List Char) : Option (List Char) :=
  match cs with
  | '#' :: rest =>
    let after := rest.dropWhile isPlain
    if after.isEmpty || atLineEnd after then some after else none
  | _ => some cs

/-- Skips a line end. -/
def dropLineEnd : List Char → List Char
  | '\n' :: rest => rest
  | '\r' :: '\n' :: rest => rest
  | cs => cs

/-- Skips blanks, comments and line ends. -/
def skipGap : Nat → List Char → Option (List Char)
  | 0, cs => some cs
  | fuel + 1, cs => do
    let cs ← skipComment (cs.dropWhile isBlank)
    if atLineEnd cs then skipGap fuel (dropLineEnd cs) else some cs

/-- Skips what may stand after a value or header on its line. -/
def skipToLineEnd (cs : List Char) : Option (List Char) := do
  let cs ← skipComment (cs.dropWhile isBlank)
  if cs.isEmpty then some [] else if atLineEnd cs then some (dropLineEnd cs) else none

/-! ### Keys -/

/-- Characters of which unquoted keys are made. -/
def isKeyChar (c : Char) : Bool := c.isAlphanum || c == '_' || c == '-'

/-- Reads one part of a key. -/
def takeKeyPart (cs : List Char) : Option (String × List Char) :=
  let bare := cs.takeWhile isKeyChar
  if bare.isEmpty then takeText false cs
  else some (String.ofList bare, cs.dropWhile isKeyChar)

/-- Reads a key with all its parts; `acc` holds the parts before, last first. -/
def takeKey : Nat → List String → List Char → Option (List String × List Char)
  | 0, _, _ => none
  | fuel + 1, acc, cs => do
    let (part, rest) ← takeKeyPart (cs.dropWhile isBlank)
    match rest.dropWhile isBlank with
    | '.' :: more => takeKey fuel (part :: acc) more
    | more => some ((part :: acc).reverse, more)

/-! ### Values -/

/-- Reads the items of a bracketed list up to `close`; `item` reads one and adds it to what was
gathered. -/
def takeItems {α : Type} (close : Char) (item : α → List Char → Option (α × List Char)) :
    Nat → α → List Char → Option (α × List Char)
  | 0, _, _ => none
  | fuel + 1, acc, cs => do
    let cs ← skipGap (cs.length + 1) cs
    match cs with
    | [] => none
    | c :: rest =>
      if c == close then some (acc, rest)
      else
        let (acc, cs) ← item acc cs
        let cs ← skipGap (cs.length + 1) cs
        match cs with
        | ',' :: rest => takeItems close item fuel acc rest
        | c :: rest => if c == close then some (acc, rest) else none
        | [] => none

/-- Reads a key, the equals sign and what `value` reads. -/
def takeAssignment (value : List Char → Option (Value × List Char)) (cs : List Char) :
    Option (List String × Value × List Char) := do
  let (key, cs) ← takeKey (cs.length + 1) [] cs
  let (v, cs) ← value ((← takeChar '=' cs).dropWhile isBlank)
  return (key, v, cs)

/-- Reads a value in which arrays and inline tables nest at most `depth` deep. -/
def takeValue : Nat → List Char → Option (Value × List Char)
  | depth, cs =>
    match cs with
    | '\x22' :: _ => (takeText true cs).map fun r => (.string r.1, r.2)
    | '\x27' :: _ => (takeText true cs).map fun r => (.string r.1, r.2)
    | '[' :: rest =>
      match depth with
      | 0 => none
      | depth + 1 =>
        let item := fun (acc : List Value) cs =>
          (takeValue depth cs).map fun r => (r.1 :: acc, r.2)
        (takeItems ']' item (rest.length + 1) [] rest).map fun r => (.array r.1.reverse, r.2)
    | '\x7b' :: rest =>
      match depth with
      | 0 => none
      | depth + 1 =>
        -- A key may not be given twice, in whatever form, so each item is entered at once.
        let item := fun (acc : Node.Entries) cs => do
          let (key, v, cs) ← takeAssignment (takeValue depth) cs
          return (← Node.assign v key acc, cs)
        (takeItems '\x7d' item (rest.length + 1) [] rest).map fun r =>
          (.table (Node.entriesToValues r.1), r.2)
    | _ => takePlain cs

/-! ### Lines -/

/-- What has been read of a document: its tables and the header that keys now belong to. -/
structure Draft where
  entries : Node.Entries := []
  header : List String := []

/-- Reads a header after its opening bracket or brackets. -/
def takeHeader (closing : List Char) (cs : List Char) : Option (List String × List Char) := do
  let (path, cs) ← takeKey (cs.length + 1) [] cs
  if closing.isPrefixOf cs then some (path, cs.drop closing.length) else none

/-- Reads one line that is not empty. -/
def takeLine (d : Draft) (cs : List Char) : Option (Draft × List Char) := do
  match cs with
  | '[' :: '[' :: rest =>
    let (path, rest) ← takeHeader [']', ']'] rest
    return ({ entries := ← Node.extend path d.entries, header := path }, ← skipToLineEnd rest)
  | '[' :: rest =>
    let (path, rest) ← takeHeader [']'] rest
    return ({ entries := ← Node.define path d.entries, header := path }, ← skipToLineEnd rest)
  | _ =>
    let (key, v, rest) ← takeAssignment (takeValue maxDepth) cs
    return ({ d with entries := ← Node.assignUnder d.header v key d.entries },
      ← skipToLineEnd rest)

/-- Reads all lines. -/
def takeLines : Nat → Draft → List Char → Option Draft
  | 0, _, _ => none
  | fuel + 1, d, cs => do
    let cs ← skipGap (cs.length + 1) cs
    if cs.isEmpty then some d
    else
      let (d, cs) ← takeLine d cs
      takeLines fuel d cs

/-- The entries of a document, a byte order mark in front of it ignored. -/
def parse (text : String) : Option (List (String × Value)) := do
  let cs := match text.toList with
    | '\uFEFF' :: rest => rest
    | cs => cs
  let d ← takeLines (cs.length + 1) {} cs
  return Node.entriesToValues d.entries

end Coprocess.Toml
