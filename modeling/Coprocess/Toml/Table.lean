import Coprocess.Toml.Value

/-!
# Settings documents: tables under construction

A document defines its tables piece by piece, and what may be added to a table depends on how it
came to be.  A table named by a header is complete once and for all as far as other headers and
dotted keys are concerned; one that only appears on the way to another header may still be given its
own header; one that a dotted key made grows by dotted keys alone.  An array of tables grows by
headers, and its last item is the one that is open.  Values, inline tables among them, are closed.

The three ways to add are `define` (a `[header]`), `extend` (a `[[header]]`) and `assign` (a key
with its value); each is `none` where the rules forbid it.
-/

namespace Coprocess.Toml

/-- How a table came to be. -/
inductive Origin where
  /-- It lies on the path of a header. -/
  | passed
  /-- A dotted key made it. -/
  | dotted
  /-- A header names it. -/
  | named
deriving DecidableEq

/-- What a name stands for in a table under construction. -/
inductive Node where
  | value (v : Value)
  | table (origin : Origin) (entries : List (String × Node))
  /-- An array of tables, the open one last. -/
  | tables (items : List (List (String × Node)))

namespace Node

/-- The entries of a table under construction, in the order of their definition. -/
abbrev Entries := List (String × Node)

/-- The node of a given name. -/
def find? (es : Entries) (name : String) : Option Node := (es.find? (·.1 == name)).map (·.2)

/-- Puts a node in the place of the one of the same name, or at the end if there is none. -/
def put (es : Entries) (name : String) (n : Node) : Entries :=
  if es.any (·.1 == name) then es.map fun e => if e.1 == name then (name, n) else e
  else es ++ [(name, n)]

/-- Applies `f` to the open item of an array of tables. -/
def onOpen (f : Entries → Option Entries) (items : List Entries) : Option Node := do
  let current ← items.getLast?
  return tables (items.dropLast ++ [← f current])

/-- Applies `f` at the end of a header's path; tables that are not there yet are made on the way. -/
def along (f : String → Entries → Option Entries) : List String → Entries → Option Entries
  | [], _ => none
  | [name], es => f name es
  | name :: rest, es => do
    match find? es name with
    | none => return put es name (table .passed (← along f rest []))
    | some (table origin inner) => return put es name (table origin (← along f rest inner))
    | some (tables items) => return put es name (← onOpen (along f rest) items)
    | some (value _) => none

/-- Enters the table of a `[header]`, which no other header may have named before. -/
def define (path : List String) (es : Entries) : Option Entries :=
  along (fun name es =>
    match find? es name with
    | none => some (put es name (table .named []))
    | some (table .passed inner) => some (put es name (table .named inner))
    | some _ => none) path es

/-- Opens a new item of the array of a `[[header]]`. -/
def extend (path : List String) (es : Entries) : Option Entries :=
  along (fun name es =>
    match find? es name with
    | none => some (put es name (tables [[]]))
    | some (tables items) => some (put es name (tables (items ++ [[]])))
    | some _ => none) path es

/-- Gives a key its value.  All but the last part of the key lead through tables that dotted keys
may still extend, and the innermost of them has to be made by dotted keys. -/
def assign (v : Value) : List String → Entries → Option Entries
  | [], _ => none
  | [name], es => if (find? es name).isSome then none else some (put es name (value v))
  | name :: rest, es => do
    match find? es name with
    | none => return put es name (table .dotted (← assign v rest []))
    | some (table origin inner) =>
      if origin == .named || (origin == .passed && rest.length == 1) then none
      else return put es name (table origin (← assign v rest inner))
    | some _ => none

/-- Gives a key its value in the table of the last header. -/
def assignUnder (header : List String) (v : Value) (key : List String) (es : Entries) :
    Option Entries :=
  if header.isEmpty then assign v key es
  else along (fun name es =>
    match find? es name with
    | some (table origin inner) => return put es name (table origin (← assign v key inner))
    | some (tables items) => return put es name (← onOpen (assign v key) items)
    | _ => none) header es

/-! ### The finished value -/

mutual

/-- The value a node stands for. -/
def toValue : Node → Value
  | value v => v
  | table _ entries => .table (entriesToValues entries)
  | tables items => .array (itemsToValues items)

/-- The entries of a finished table. -/
def entriesToValues : List (String × Node) → List (String × Value)
  | [] => []
  | (name, n) :: rest => (name, toValue n) :: entriesToValues rest

/-- The items of a finished array of tables. -/
def itemsToValues : List (List (String × Node)) → List Value
  | [] => []
  | entries :: rest => .table (entriesToValues entries) :: itemsToValues rest

end

end Node

end Coprocess.Toml
