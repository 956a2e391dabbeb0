import Coprocess.Shell.Reader.Words

/-!
# Reading tokens

Tokens are words, operators, redirections and line ends.  The here-documents announced on a line are
read when the line ends.
-/

namespace Coprocess.Shell

open Read

/-- Reads the here-documents that were announced on the line that has just ended. -/
def readDocuments (commands : Read Command) (sub : Bytes → Read Command) : Read Unit := do
  let announced := (← get).announced
  modify ({ · with announced := [] })
  announced.forM fun a => do
    let text := (← documentLines a [] (← Read.fuel)).reverse
    let word ← if a.quoted then pure [Part.quoted text]
      else do
        let s ← get
        set { s with rest := text, whole := true }
        let parts ← wordParts commands sub .document (2 * text.length + 16) 0 []
        modify fun t => { t with rest := s.rest, whole := s.whole, line := s.line }
        pure (collected parts)
    modify fun s => { s with documents := (a.number, word) :: s.documents }

/-- The operators, longest first. -/
def operators : List String := [";;", "&&", "||", ";", "&", "|", "(", ")"]

/-- The redirection operators, longest first. -/
def redirectOperators : List String := ["<<-", "<<", ">>", "<&", ">&", "<>", ">|", "<", ">"]

/-- Skips blanks and comments. -/
def skipBlanks : Nat → Read Unit
  | 0 => pure ()
  | fuel + 1 => do
    joinLines fuel
    let s ← get
    match s.rest with
    | 0x20 :: rest | 9 :: rest =>
      set { s with rest }
      skipBlanks fuel
    | 0x23 :: rest =>
      let after := rest.dropWhile (· != 10)
      if after.isEmpty && !s.whole then throw .incomplete
      set { s with rest := after }
    | _ => pure ()

/-- Takes the first of the given operators that the text begins with. -/
def takeOperator (ops : List String) : Read (Option String) := do
  let s ← get
  match ops.find? fun op => (raw op).isPrefixOf s.rest with
  | some op =>
    -- More of the text could make it a longer operator.
    if s.rest.length == op.length && !s.whole then throw .incomplete
    set { s with rest := s.rest.drop op.length }
    return some op
  | none => return none

/-- Reads a token. -/
def freshToken (commands : Read Command) (sub : Bytes → Read Command) : Read Token := do
  skipBlanks (← Read.fuel)
  match ← peek? with
  | none => return .eof
  | some 10 =>
    let _ ← next?
    readDocuments commands sub
    return .newline
  | some _ =>
    match ← takeOperator operators with
    | some op => return .operator op
    | none =>
      match ← takeOperator redirectOperators with
      | some op => return .redirect none op
      | none =>
        let s ← get
        let number := s.rest.takeWhile isDigit
        let behind := s.rest.drop number.length
        -- Only a single digit directly before the operator names a descriptor.
        if !number.isEmpty && number.length ≤ 1 &&
          (behind.head? == some 0x3C || behind.head? == some 0x3E) then
          set { s with rest := behind }
          return .redirect (some (decimal number)) ((← takeOperator redirectOperators).getD ">")
        else
          let parts := collected (← wordParts commands sub .bare (← Read.fuel) 0 [])
          return .word parts (plainText parts)

/-- The words that have a meaning of their own where a command begins. -/
def keywords : List String :=
  ["!", "case", "do", "done", "elif", "else", "esac", "fi", "for", "if", "in", "then", "until",
   "while", "\x7b", "\x7d"]

/-- The keyword that a token is, where a command begins. -/
def Token.keyword? : Token → Option String
  | .word _ (some text) => keywords.find? fun k => raw k == text
  | _ => none

/-- How a token is named in messages. -/
def Token.name (keywordsCount : Bool) : Token → String
  | .eof => "end of file"
  | .newline => "newline"
  | .operator text => "\"" ++ text ++ "\""
  | .redirect _ _ => "redirection"
  | .word parts plain =>
    match (if keywordsCount then Token.keyword? (.word parts plain) else none) with
    | some k => "\"" ++ k ++ "\""
    | none => "word"

end Coprocess.Shell
