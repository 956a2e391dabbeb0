import Coprocess.Event

/-!
# Log filters

A filter is a list of directives, each of which lets the parts of the engine whose names begin with
its target log up to a severity.  The directive with the longest fitting target decides, and of
several with the same target the last; where none fits nothing is logged.

Written down, directives are separated by commas: `target=level`, a bare level, or a bare target,
which stands for everything below it.  Levels have names, in any case, and numbers.
-/

namespace Coprocess.Logging

/-- Lets some parts of the engine log. -/
structure Directive where
  /-- How the names of the parts begin. -/
  target : String := ""
  /-- How many of the five severities pass, gravest first. -/
  verbosity : Nat
deriving DecidableEq, Repr

/-- The directives in force. -/
abbrev Filter := List Directive

namespace Filter

/-! ### Deciding -/

/-- The directive that decides about a part, given the one that decided so far. -/
def decide (name : String) (so : Option Directive) (d : Directive) : Option Directive :=
  if d.target.toList.isPrefixOf name.toList && so.all (·.target.length ≤ d.target.length) then
    some d
  else so

/-- Whether a record passes. -/
def allows (f : Filter) (r : Record) : Bool :=
  match f.foldl (decide r.origin.target) none with
  | some d => r.severity.verbosity ≤ d.verbosity
  | none => false

/-- The filter that lets everybody log at a level. -/
def ofLevel : LogLevel → Filter
  | .off => [{ verbosity := 0 }]
  | .warn => [{ verbosity := 2 }]
  | .info => [{ verbosity := 3 }]
  | .debug => [{ verbosity := 4 }]
  | .trace => [{ verbosity := 5 }]

/-! ### Reading -/

/-- The names of levels, by how much they let through. -/
def levelNames : List String := ["off", "error", "warn", "info", "debug", "trace"]

/-- A number in decimal digits, which may have a plus sign. -/
def number? (s : String) : Option Nat :=
  let digits := if s.toList.head? == some '+' then s.toList.tail else s.toList
  if digits.isEmpty || !digits.all Char.isDigit then none
  else some (digits.foldl (fun n c => n * 10 + (c.toNat - 48)) 0)

/-- The level that a text stands for. -/
def level? (s : String) : Option Nat :=
  match (number? s).filter (· < levelNames.length) with
  | some n => some n
  | none => if s.isEmpty then some 1 else levelNames.idxOf? (s.map Char.toLower)

/-- Whether a directive may begin with a character. -/
def canBegin (c : Char) : Bool := c.isAlphanum || c == '-' || c == ':' || c == '_' || 0x80 ≤ c.toNat

/-- The directive that a text stands for. -/
def directive? (s : String) : Option Directive :=
  let target := s.toList.takeWhile (· != '=')
  -- A bracket would ask about spans, which the engine has none of.
  if !(s.toList.head?.any canBegin) || target.contains '[' then none
  else match s.toList.drop target.length with
    | [] =>
      match level? s with
      | some verbosity => some { verbosity }
      | none => some { target := s, verbosity := 5 }
    | _ :: level =>
      let verbosity := if level.isEmpty then some 5 else level? (String.ofList level)
      verbosity.map fun verbosity => { target := String.ofList target, verbosity }

/-- The filter that a text stands for; one without any directives lets only errors through. -/
def ofText? (s : String) : Option Filter :=
  let parts := (s.splitOn ",").filter (!·.isEmpty)
  if parts.isEmpty then some [{ verbosity := 1 }] else parts.mapM directive?

end Filter

end Coprocess.Logging
