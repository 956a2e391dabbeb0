import Coprocess.Shell.Arithmetic
import Coprocess.Shell.Pattern
import Coprocess.Shell.State

/-!
# Expansion

What words become.  Parts are expanded to marked bytes first: a byte that was written down, one that
was quoted, or one that came from an expansion.  Only those that came from an expansion are split
into fields, and only those that were not quoted can be special in patterns.

Expansion may run commands; how that is done is a parameter, so that nothing here depends on it.
-/

namespace Coprocess.Shell

open Host

/-- Where a byte of an expanded word came from. -/
inductive Provenance where
  | written
  | quoted
  | expanded
deriving DecidableEq, Repr

/-- A mark in an expanded word. -/
inductive Mark where
  | byte (c : UInt8) (origin : Provenance)
  /-- A field ends here. -/
  | gap
  /-- There is a field here, even an empty one. -/
  | presence
deriving DecidableEq, Repr

/-- Runs a command and yields what it wrote. -/
abbrev Substitute := Command → State → Program (Bytes × State)

namespace Expansion

/-- The bytes of marks. -/
def bytesOf (marks : List Mark) : Bytes :=
  marks.filterMap fun
    | .byte c _ => some c
    | .gap => some 0x20
    | .presence => none

/-- The marked bytes of marks, as a pattern. -/
def patternOf (marks : List Mark) : List Marked :=
  marks.filterMap fun
    | .byte c origin => some (c, origin == .quoted)
    | .gap => some (0x20, false)
    | .presence => none

/-- The marks of a value. -/
def marksOf (quoted : Bool) (value : Bytes) : List Mark :=
  if quoted then .presence :: value.map (.byte · .quoted) else value.map (.byte · .expanded)

/-- The marks of several values, as fields of their own. -/
def marksOfAll (quoted : Bool) (values : List Bytes) : List Mark :=
  match values with
  | [] => []
  | [v] => marksOf quoted v
  | v :: rest => marksOf quoted v ++ .gap :: marksOfAll quoted rest

/-- The value that a modifier looks at: the parameters together, or one of them. -/
def plainMarks (s : State) (name : Bytes) (quoted : Bool) : Option (List Mark) :=
  if name == [0x40] then
    if s.params.isEmpty then none else some (marksOfAll quoted s.params)
  else if name == [0x2A] then
    if s.params.isEmpty then none
    else if quoted then
      let between := match s.separators with
        | [] => []
        | c :: _ => [c]
      some (marksOf true (between.intercalate s.params))
    else some (marksOfAll false s.params)
  else (s.parameter? name).map (marksOf quoted)

/-- What a tilde at the front of a word stands for. -/
def tilde (s : State) (text : Bytes) (more : Bool) : Option (Bytes × Bytes) :=
  match text with
  | 0x7E :: rest =>
    let user := rest.takeWhile (· != 0x2F)
    let after := rest.drop user.length
    -- What follows might still belong to the name of the user.
    if after.isEmpty && more then none
    else if user.isEmpty then (s.value? (raw "HOME")).map fun home => (home, after)
    else if user == raw "root" then some (raw "/root", after)
    else none
  | _ => none

/-- A piece of a literal text, with a tilde at its front expanded. -/
def tildePiece (s : State) (more : Bool) (piece : Bytes) : Word :=
  match tilde s piece more with
  | some (home, after) => [.quoted home, .literal after]
  | none => [.literal piece]

/-- A word as the value of an assignment, in which tildes count at the front and after colons. -/
def assigned (s : State) (front : Bool) : Word → Word
  | [] => []
  | .literal text :: rest =>
    match Bytes.splitOn 0x3A text with
    | [] => assigned s false rest
    | first :: pieces =>
      let last := pieces.length
      (if front then tildePiece s (last == 0 && !rest.isEmpty) first else [.literal first]) ++
        (pieces.zipIdx.flatMap fun (piece, n) =>
          .literal [0x3A] :: tildePiece s (n + 1 == last && !rest.isEmpty) piece) ++
        assigned s false rest
  | p :: rest => p :: assigned s false rest

/-- Fails, with a message. -/
def failed (s : State) (message : Bytes) : Program (State × Option (List Mark)) := do
  return (← giveUp s message, none)

mutual

/-- Expands a word to marks; there are none if that fails. -/
def word (run : Substitute) : Nat → State → Word → Program (State × Option (List Mark))
  | 0, s, _ => failed s (raw "nested too deeply")
  | fuel + 1, s, w =>
    match w with
    | .literal text :: rest =>
      match tilde s text (!rest.isEmpty) with
      | some (home, after) => parts run fuel s (.literal after :: rest) [home.map (.byte · .quoted)]
      | none => parts run fuel s w []
    | w => parts run fuel s w []

/-- Expands parts behind those that were expanded, last first. -/
def parts (run : Substitute) :
    Nat → State → Word → List (List Mark) → Program (State × Option (List Mark))
  | 0, s, _, _ => failed s (raw "nested too deeply")
  | _ + 1, s, [], before => return (s, some before.reverse.flatten)
  | fuel + 1, s, p :: rest, before => do
    let (s, marks) ← part run fuel s p
    match marks with
    | none => return (s, none)
    | some marks => parts run fuel s rest (marks :: before)

/-- Expands one part. -/
def part (run : Substitute) : Nat → State → Part → Program (State × Option (List Mark))
  | 0, s, _ => failed s (raw "nested too deeply")
  | fuel + 1, s, p =>
    match p with
    | .literal text => return (s, some (text.map (.byte · .written)))
    | .quoted text => return (s, some (.presence :: text.map (.byte · .quoted)))
    | .substitution body quoted => do
      let (out, s) ← run body s
      -- Zero bytes and the line ends behind the last line do not count.
      let out := (out.filter (· != 0)).reverse.dropWhile (· == 10) |>.reverse
      return (s, some (marksOf quoted out))
    | .arithmetic expression quoted => do
      let (s, marks) ← parts run fuel s expression []
      match marks with
      | none => return (s, none)
      | some marks =>
        let text := bytesOf marks
        match Arithmetic.evaluate (fun name => (s.value? name).getD []) text with
        | .error reason => failed s (reason.message text)
        | .ok (n, assigned) =>
          let s := assigned.foldr (fun (name, value) s => s.assign name value) s
          return (s, some (marksOf quoted (raw (toString n))))
    | .parameter name m w quoted => parameter run fuel s name m w quoted

/-- Expands a parameter. -/
def parameter (run : Substitute) : Nat → State → Bytes → Modifier → Word → Bool →
    Program (State × Option (List Mark))
  | 0, s, _, _, _, _ => failed s (raw "nested too deeply")
  | fuel + 1, s, name, m, w, quoted => do
    let marks := plainMarks s name quoted
    let isList := name == [0x40] || name == [0x2A]
    let isNull := (marks.map bytesOf).all List.isEmpty
    let missing (colon : Bool) : Bool := marks.isNone || (colon && isNull)
    let unset : Program (State × Option (List Mark)) :=
      if s.options.failOnUnset && !isList then failed s (name ++ raw ": parameter not set")
      else return (s, some [])
    match m with
    | .bad => failed s (raw "Bad substitution")
    | .value =>
      match marks with
      | some marks => return (s, some marks)
      | none => if isList then return (s, some []) else unset
    | .length =>
      if name == [0x40] || name == [0x2A] then
        return (s, some (marksOf quoted (digits s.params.length)))
      else match marks with
        | some marks => return (s, some (marksOf quoted (digits (bytesOf marks).length)))
        | none =>
          if s.options.failOnUnset then unset else return (s, some (marksOf quoted (raw "0")))
    | .orElse colon => if missing colon then word run fuel s w else return (s, some (marks.getD []))
    | .ifSet colon => if missing colon then return (s, some []) else word run fuel s w
    | .assign colon =>
      if missing colon then
        let (s, value) ← word run fuel s w
        match value with
        | none => return (s, none)
        | some value =>
          if !isName name then failed s (raw "Bad substitution")
          else if s.isFixed name then failed s (name ++ raw ": is read only")
          else return (s.assign name (bytesOf value), some (marksOf quoted (bytesOf value)))
      else return (s, some (marks.getD []))
    | .orFail colon =>
      if missing colon then
        let (s, message) ← word run fuel s w
        match message with
        | none => return (s, none)
        | some message =>
          let text := bytesOf message
          let text :=
            if w.isEmpty then
              (if colon then raw "parameter not set or null" else raw "parameter not set")
            else text
          failed s (name ++ raw ": " ++ text)
      else return (s, some (marks.getD []))
    | .dropSuffix longest =>
      let (s, pattern) ← word run fuel s w
      return (s, pattern.map fun pattern =>
        marksOf quoted (dropMatchingSuffix longest (globOf (patternOf pattern))
          (bytesOf (marks.getD []))))
    | .dropPrefix longest =>
      let (s, pattern) ← word run fuel s w
      return (s, pattern.map fun pattern =>
        marksOf quoted (dropMatchingPrefix longest (globOf (patternOf pattern))
          (bytesOf (marks.getD []))))

end

/-! ### Fields -/

/-- What splitting carries along: the fields so far, last first, the field at hand, last byte first,
and whether the last field was ended by blanks that a separator may still follow. -/
structure Splitting where
  done : List (List Marked) := []
  current : Option (List Marked) := none
  blanks : Bool := false

/-- Whether a separator is a blank. -/
def isBlank (c : UInt8) : Bool := c == 32 || c == 9 || c == 10

/-- Takes one mark in. -/
def Splitting.take (separators : Bytes) (sp : Splitting) (m : Mark) : Splitting :=
  let finished (sp : Splitting) : Splitting :=
    match sp.current with
    | some field => { sp with done := field.reverse :: sp.done, current := none }
    | none => sp
  match m with
  | .gap => { finished sp with blanks := false }
  | .presence => { sp with current := some (sp.current.getD []), blanks := false }
  | .byte c origin =>
    if origin == .expanded && separators.contains c then
      if isBlank c then
        if sp.current.isSome then { finished sp with blanks := true } else sp
      else if sp.current.isSome then { finished sp with blanks := false }
      -- It belongs to the blanks that ended the field before.
      else if sp.blanks then { sp with blanks := false }
      else { sp with done := [] :: sp.done }
    else { sp with current := some ((c, origin == .quoted) :: sp.current.getD []), blanks := false }

/-- The fields of an expanded word. -/
def split (separators : Bytes) (marks : List Mark) : List (List Marked) :=
  let sp := marks.foldl (Splitting.take separators) {}
  let done := match sp.current with
    | some field => field.reverse :: sp.done
    | none => sp.done
  done.reverse

/-! ### Files that match -/

/-- Cuts a field at its slashes; an empty part stands for a slash more. -/
def pathPieces (field : List Marked) : List (List Marked) :=
  field.foldr (fun (c, q) pieces =>
    if c == 0x2F then [] :: pieces
    else match pieces with
      | [] => [[(c, q)]]
      | piece :: more => ((c, q) :: piece) :: more) [[]]

/-- Inserts a name into names in order. -/
def insertName (name : Bytes) : List Bytes → List Bytes
  | [] => [name]
  | other :: rest =>
    if precedes name other then name :: other :: rest else other :: insertName name rest

/-- Collects what a program yields for each of several names. -/
def collect (f : Bytes → Program (List Bytes)) : List Bytes → Program (List Bytes)
  | [] => return []
  | name :: rest => do
    let first ← f name
    let more ← collect f rest
    return first ++ more

/-- The paths that match, given the part of them that is already known. -/
def matching (before : Bytes) : List (List Marked) → Program (List Bytes)
  | [] => do
    match ← Program.request (.fileInfo before false) with
    | .ok _ => return [before]
    | .error _ => return []
  | piece :: rest => do
    let join (name : Bytes) : Bytes := before ++ name ++ (if rest.isEmpty then [] else [0x2F])
    if !isPattern piece then matching (join (piece.map (·.1))) rest
    else
      match ← Program.request (.listDirectory (if before.isEmpty then raw "." else before)) with
      | .error _ => return []
      | .ok names =>
        let pattern := globOf piece
        let shown := (raw "." :: raw ".." :: names).filter fun name =>
          Glob.isMatch pattern name && (name.head? != some 0x2E || piece.head?.any (·.1 == 0x2E))
        collect (fun name => matching (join name) rest) (shown.foldr insertName [])

/-- The paths that a field stands for: those that match, or itself if none does. -/
def paths (s : State) (field : List Marked) : Program (List Bytes) := do
  let plain := field.map (·.1)
  if s.options.noPatterns || !isPattern field then return [plain]
  else
    match ← matching [] (pathPieces field) with
    | [] => return [plain]
    | found => return found

/-- The paths that several fields stand for. -/
def allPaths (s : State) : List (List Marked) → Program (List Bytes)
  | [] => return []
  | field :: rest => do
    let first ← paths s field
    let more ← allPaths s rest
    return first ++ more

/-- How deep words may be nested. -/
def depth : Nat := 1000000

/-- What a list of words becomes. -/
def fields (run : Substitute) (s : State) :
    List Word → List Bytes → Program (State × Option (List Bytes))
  | [], before => return (s, some before)
  | w :: rest, before => do
    let (s, marks) ← word run depth s w
    match marks with
    | none => return (s, none)
    | some marks =>
      let found ← allPaths s (split s.separators marks)
      fields run s rest (before ++ found)

/-- What a word becomes that is not split. -/
def single (run : Substitute) (s : State) (w : Word) : Program (State × Option Bytes) := do
  let (s, marks) ← word run depth s w
  return (s, marks.map bytesOf)

/-- The pattern that a word becomes. -/
def pattern (run : Substitute) (s : State) (w : Word) : Program (State × Option (List Glob)) := do
  let (s, marks) ← word run depth s w
  return (s, marks.map fun marks => globOf (patternOf marks))

end Expansion

end Coprocess.Shell
