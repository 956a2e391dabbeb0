import Coprocess.Shell.Reader.Tokens

/-!
# Reading shell commands

A command text is read from the front, one complete command at a time: what comes after a line is
not looked at before the line was run.  Reading is recursive descent over tokens, with fuel for the
depth, since every level of it takes at least one byte.
-/

namespace Coprocess.Shell

open Read

/-- A token that does not fit, and what would have. -/
def unexpected {α : Type} (t : Token) (keywordsCount : Bool) (expected : Option String) :
    Read α := do
  if t matches .eof then
    if !(← get).whole then throw .incomplete
  let tail := match expected with
    | some e => " (expecting " ++ e ++ ")"
    | none => ""
  Read.fail (raw ("Syntax error: " ++ t.name keywordsCount ++ " unexpected" ++ tail))

/-- The name and value of an assignment. -/
def assignment? (w : Word) : Option (Bytes × Word) :=
  match w with
  | .literal text :: rest =>
    let name := text.takeWhile (· != 0x3D)
    if name.length < text.length && isName name then
      let value := text.drop (name.length + 1)
      some (name, if value.isEmpty then rest else .literal value :: rest)
    else none
  | _ => none

/-- The tokens and keywords that end a list of commands. -/
def endsList (t : Token) : Bool :=
  match t with
  | .eof => true
  | .operator ")" | .operator ";;" => true
  | t => match t.keyword? with
    | some k => ["do", "done", "elif", "else", "esac", "fi", "then", "\x7d"].contains k
    | none => false

/-- How a list of commands is read: as a line, inside of something that must not be empty, or inside
of something that may. -/
inductive ListMode where
  | line
  | body
  | optional
deriving DecidableEq, Repr

mutual

/-- Reads all of a text as commands. -/
def wholeText (fuel : Nat) (text : Bytes) : Read Command :=
  match fuel with
  | 0 => Read.fail (raw "Syntax error: nested too deeply")
  | fuel + 1 => do
    let s ← get
    set { s with rest := text, whole := true, peeked := none, announced := [] }
    let body ← commandList fuel .optional
    let t ← peekToken fuel
    if !(t matches .eof) then unexpected t true none
    modify fun t =>
      { t with
        rest := s.rest, whole := s.whole, peeked := s.peeked, line := s.line,
        announced := s.announced }
    return body

/-- Reads commands up to a closing parenthesis. -/
def parenthesized (fuel : Nat) : Read Command :=
  match fuel with
  | 0 => Read.fail (raw "Syntax error: nested too deeply")
  | fuel + 1 => do
    let s ← get
    set { s with peeked := none }
    let body ← commandList fuel .optional
    let t ← token fuel
    match t with
    | .operator ")" => return body
    | t => unexpected t true (some "\")\"")

/-- Takes the next token. -/
def token (fuel : Nat) : Read Token :=
  match fuel with
  | 0 => return .eof
  | fuel + 1 => do
    match (← get).peeked with
    | some t =>
      modify ({ · with peeked := none })
      return t
    | none => freshToken (parenthesized fuel) (wholeText fuel)

/-- Looks at the next token. -/
def peekToken (fuel : Nat) : Read Token :=
  match fuel with
  | 0 => return .eof
  | fuel + 1 => do
    match (← get).peeked with
    | some t => return t
    | none =>
      let t ← freshToken (parenthesized fuel) (wholeText fuel)
      modify ({ · with peeked := some t })
      return t

/-- Skips line ends. -/
def skipNewlines (fuel : Nat) : Read Unit :=
  match fuel with
  | 0 => pure ()
  | fuel + 1 => do
    if (← peekToken fuel) matches .newline then
      let _ ← token fuel
      skipNewlines fuel

/-- Takes a keyword that has to come here. -/
def expectKeyword (fuel : Nat) (k : String) : Read Unit :=
  match fuel with
  | 0 => pure ()
  | fuel + 1 => do
    let t ← token fuel
    if t.keyword? != some k then unexpected t true (some ("\"" ++ k ++ "\""))

/-- Reads commands that are separated by line ends, semicolons and ampersands. -/
def commandList (fuel : Nat) (mode : ListMode) : Read Command :=
  match fuel with
  | 0 => Read.fail (raw "Syntax error: nested too deeply")
  | fuel + 1 => listOnto fuel mode none

/-- Reads on in a list of commands after those that were read. -/
def listOnto (fuel : Nat) (mode : ListMode) (before : Option Command) : Read Command :=
  match fuel with
  | 0 => Read.fail (raw "Syntax error: nested too deeply")
  | fuel + 1 => do
    if mode != .line then skipNewlines fuel
    let t ← peekToken fuel
    match t with
    | .newline =>
      let _ ← token fuel
      return before.getD .empty
    | .eof => return before.getD .empty
    | _ =>
      if (mode == .optional || before.isSome) && endsList t then
        if mode == .line then unexpected t true none else return before.getD .empty
      else
        let command ← andOr fuel
        let t ← peekToken fuel
        let command := match t with
          | .operator "&" => Command.background command
          | _ => command
        let all := match before with
          | some c => Command.sequence c command
          | none => command
        match t with
        | .operator ";" | .operator "&" =>
          let _ ← token fuel
          listOnto fuel mode (some all)
        | .newline => listOnto fuel mode (some all)
        | .eof => return all
        | _ => if mode == .line then unexpected t true none else return all

/-- Reads pipelines that depend on each other. -/
def andOr (fuel : Nat) : Read Command :=
  match fuel with
  | 0 => Read.fail (raw "Syntax error: nested too deeply")
  | fuel + 1 => do andOrOnto fuel (← pipeline fuel)

/-- Reads on after a pipeline. -/
def andOrOnto (fuel : Nat) (first : Command) : Read Command :=
  match fuel with
  | 0 => return first
  | fuel + 1 => do
    match ← peekToken fuel with
    | .operator "&&" =>
      let _ ← token fuel
      skipNewlines fuel
      andOrOnto fuel (.both first (← pipeline fuel))
    | .operator "||" =>
      let _ ← token fuel
      skipNewlines fuel
      andOrOnto fuel (.either first (← pipeline fuel))
    | _ => return first

/-- Reads a pipeline. -/
def pipeline (fuel : Nat) : Read Command :=
  match fuel with
  | 0 => Read.fail (raw "Syntax error: nested too deeply")
  | fuel + 1 => do
    if (← peekToken fuel).keyword? == some "!" then
      let _ ← token fuel
      return .negated (← pipeline fuel)
    else
      match ← pipelineOnto fuel [← command fuel] with
      | [c] => return c
      | cs => return .pipeline cs.reverse

/-- Reads on in a pipeline after its first commands, last first. -/
def pipelineOnto (fuel : Nat) (before : List Command) : Read (List Command) :=
  match fuel with
  | 0 => return before
  | fuel + 1 => do
    match ← peekToken fuel with
    | .operator "|" =>
      let _ ← token fuel
      skipNewlines fuel
      pipelineOnto fuel ((← command fuel) :: before)
    | _ => return before

/-- Reads a command. -/
def command (fuel : Nat) : Read Command :=
  match fuel with
  | 0 => Read.fail (raw "Syntax error: nested too deeply")
  | fuel + 1 => do
    let line := (← get).line
    let t ← peekToken fuel
    match t.keyword? with
    | some "if" =>
      let _ ← token fuel
      withRedirects fuel line (← conditional fuel)
    | some "while" =>
      let _ ← token fuel
      withRedirects fuel line (← whileLoop fuel true)
    | some "until" =>
      let _ ← token fuel
      withRedirects fuel line (← whileLoop fuel false)
    | some "for" =>
      let _ ← token fuel
      withRedirects fuel line (← forLoop fuel)
    | some "case" =>
      let _ ← token fuel
      withRedirects fuel line (← choice fuel line)
    | some "\x7b" =>
      let _ ← token fuel
      let body ← commandList fuel .body
      expectKeyword fuel "\x7d"
      withRedirects fuel line body
    | some _ => unexpected t true none
    | none =>
      match t with
      | .operator "(" =>
        let _ ← token fuel
        let body ← commandList fuel .body
        match ← token fuel with
        | .operator ")" => withRedirects fuel line (.subshell body)
        | t => unexpected t true (some "\")\"")
      | .word _ _ | .redirect _ _ => simple fuel line [] [] []
      | t => unexpected t true none

/-- Reads the redirections behind a compound command. -/
def withRedirects (fuel line : Nat) (body : Command) : Read Command :=
  match fuel with
  | 0 => return body
  | fuel + 1 => do
    match ← redirects fuel [] with
    | [] => return body
    | rs => return .redirected line body rs

/-- Reads redirections behind those that were read, last first. -/
def redirects (fuel : Nat) (before : List Redirect) : Read (List Redirect) :=
  match fuel with
  | 0 => return before.reverse
  | fuel + 1 => do
    match ← peekToken fuel with
    | .redirect fd op =>
      let _ ← token fuel
      redirects fuel ((← redirect fuel fd op) :: before)
    | _ => return before.reverse

/-- Reads the target of a redirection. -/
def redirect (fuel : Nat) (fd : Option Nat) (op : String) : Read Redirect :=
  match fuel with
  | 0 => Read.fail (raw "Syntax error: nested too deeply")
  | fuel + 1 => do
    match ← token fuel with
    | .word parts _ =>
      if op == "<<" || op == "<<-" then
        let s ← get
        let a : Announced := ⟨s.nextDocument, unquotedText parts, op == "<<-", hasQuotes parts⟩
        set { s with nextDocument := s.nextDocument + 1, announced := s.announced ++ [a] }
        return .mk (fd.getD 0) (.document a.number) []
      else
        let kind : RedirectKind :=
          if op == "<" then .input
          else if op == "<>" then .readWrite
          else if op == ">>" then .append
          else if op == "<&" || op == ">&" then .duplicate else .output
        return .mk (fd.getD (if op.startsWith "<" then 0 else 1)) kind parts
    | t => unexpected t false none

/-- Reads a simple command after the assignments, words and redirections that were read, last
first. -/
def simple (fuel line : Nat) (assignments : List (Bytes × Word)) (words : List Word)
    (rs : List Redirect) : Read Command :=
  match fuel with
  | 0 => Read.fail (raw "Syntax error: nested too deeply")
  | fuel + 1 => do
    match ← peekToken fuel with
    | .word parts plain =>
      let _ ← token fuel
      match (if words.isEmpty then assignment? parts else none) with
      | some a => simple fuel line (a :: assignments) words rs
      | none =>
        if words.isEmpty && assignments.isEmpty && rs.isEmpty then
          match ← peekToken fuel with
          | .operator "(" =>
            let _ ← token fuel
            match ← token fuel with
            | .operator ")" =>
              match plain with
              | some name =>
                if isName name then
                  skipNewlines fuel
                  return .function name (← command fuel)
                else Read.fail (raw "Syntax error: Bad function name")
              | none => Read.fail (raw "Syntax error: Bad function name")
            | t => unexpected t false (some "\")\"")
          | _ => simple fuel line assignments [parts] rs
        else simple fuel line assignments (parts :: words) rs
    | .redirect fd op =>
      let _ ← token fuel
      simple fuel line assignments words ((← redirect fuel fd op) :: rs)
    | _ => return .simple line assignments.reverse words.reverse rs.reverse

/-- Reads a conditional after its first keyword. -/
def conditional (fuel : Nat) : Read Command :=
  match fuel with
  | 0 => Read.fail (raw "Syntax error: nested too deeply")
  | fuel + 1 => do
    let condition ← commandList fuel .body
    expectKeyword fuel "then"
    let body ← commandList fuel .body
    let t ← token fuel
    match t.keyword? with
    | some "elif" => return .conditional condition body (← conditional fuel)
    | some "else" =>
      let otherwise ← commandList fuel .body
      expectKeyword fuel "fi"
      return .conditional condition body otherwise
    | some "fi" => return .conditional condition body .empty
    | _ => unexpected t true (some "\"fi\"")

/-- Reads a loop after its first keyword. -/
def whileLoop (fuel : Nat) (wanted : Bool) : Read Command :=
  match fuel with
  | 0 => Read.fail (raw "Syntax error: nested too deeply")
  | fuel + 1 => do
    let condition ← commandList fuel .body
    expectKeyword fuel "do"
    let body ← commandList fuel .body
    expectKeyword fuel "done"
    return .whileLoop wanted condition body

/-- Reads words up to one that is none, last first. -/
def wordsOnto (fuel : Nat) (before : List Word) : Read (List Word) :=
  match fuel with
  | 0 => return before
  | fuel + 1 => do
    match ← peekToken fuel with
    | .word parts _ =>
      let _ ← token fuel
      wordsOnto fuel (parts :: before)
    | _ => return before

/-- Reads a loop over words after its first keyword. -/
def forLoop (fuel : Nat) : Read Command :=
  match fuel with
  | 0 => Read.fail (raw "Syntax error: nested too deeply")
  | fuel + 1 => do
    match ← token fuel with
    | .word _ (some name) =>
      if !isName name then Read.fail (raw "Syntax error: Bad for loop variable")
      else
        skipNewlines fuel
        let words ← if (← peekToken fuel).keyword? == some "in" then do
            let _ ← token fuel
            let words ← wordsOnto fuel []
            let t ← token fuel
            match t with
            | .newline | .operator ";" => pure (some words.reverse)
            | t => unexpected t false none
          else do
            if (← peekToken fuel) matches .operator ";" then
              let _ ← token fuel
            pure none
        skipNewlines fuel
        expectKeyword fuel "do"
        let body ← commandList fuel .body
        expectKeyword fuel "done"
        return .forLoop name words body
    | _ => Read.fail (raw "Syntax error: Bad for loop variable")

/-- Reads a choice after its first keyword. -/
def choice (fuel line : Nat) : Read Command :=
  match fuel with
  | 0 => Read.fail (raw "Syntax error: nested too deeply")
  | fuel + 1 => do
    match ← token fuel with
    | .word parts _ =>
      skipNewlines fuel
      expectKeyword fuel "in"
      return .choice line parts (← choiceItems fuel [])
    | t => unexpected t false (some "word")

/-- Reads the items of a choice behind those that were read, last first. -/
def choiceItems (fuel : Nat) (before : List (List Word × Command)) :
    Read (List (List Word × Command)) :=
  match fuel with
  | 0 => Read.fail (raw "Syntax error: nested too deeply")
  | fuel + 1 => do
    skipNewlines fuel
    let t ← token fuel
    if t.keyword? == some "esac" then return before.reverse
    else
      let first ← match t with
        | .operator "(" => token fuel
        | t => pure t
      let patterns ← choicePatterns fuel first []
      let body ← commandList fuel .optional
      skipNewlines fuel
      let t ← token fuel
      match t with
      | .operator ";;" => choiceItems fuel ((patterns, body) :: before)
      | t =>
        if t.keyword? == some "esac" then return ((patterns, body) :: before).reverse
        else unexpected t true (some "\";;\"")

/-- Reads the patterns of an item behind those that were read, last first. -/
def choicePatterns (fuel : Nat) (t : Token) (before : List Word) : Read (List Word) :=
  match fuel with
  | 0 => Read.fail (raw "Syntax error: nested too deeply")
  | fuel + 1 => do
    let parts := match t with
      | .word parts _ => parts
      | _ => []
    match ← token fuel with
    | .operator "|" => choicePatterns fuel (← token fuel) (parts :: before)
    | .operator ")" => return (parts :: before).reverse
    | t => unexpected t false (some "\")\"")

end

/-- Reads a complete command: what stands on the next line, and on further ones if it goes on there.
`none` stands for the end of the text. -/
def completeCommand : Read (Option Command) := do
  let fuel := 4 * (← get).rest.length + 64
  let s ← get
  if (s.rest.dropWhile fun c => c == 0x20 || c == 9).isEmpty && s.whole then return none
  else some <$> commandList fuel .line

end Coprocess.Shell
