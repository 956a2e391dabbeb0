import Coprocess.Settings

/-!
# The search for a bare name

A command without a separator is looked up along a colon-separated list of directories.  The list is
the search path if there is one, and otherwise one of two built-in lists, chosen by privilege
(`SearchContext.effectivePath`).  Each entry yields one candidate, in order; an empty entry stands
for the current directory and yields the bare name.  A candidate that would not fit in the path
limit together with its terminating zero byte is dropped, never cut.
-/

namespace Coprocess

/-- What the search depends on besides the command, captured once when a launch begins. -/
structure SearchContext where
  /-- The list of directories; `none` if the caller has none. -/
  searchPath : Option Bytes
  privileged : Bool
  /-- The longest candidate in bytes, its terminating zero byte included. -/
  pathLimit : Nat
deriving DecidableEq, Repr

/-- The path limit where the system reports none. -/
def fallbackPathLimit : Nat := 4096

/-- The path limit that follows from what the system reports: a positive number, or the fallback. -/
def pathLimitOf (reported : Except Errno (Option Int)) : Nat :=
  match reported with
  | .ok (some limit) => if 0 < limit then limit.toNat else fallbackPathLimit
  | _ => fallbackPathLimit

namespace SearchContext

/-- The list of directories that is searched. -/
def effectivePath (ctx : SearchContext) (exec : ExecSettings) : Bytes :=
  match ctx.searchPath with
  | some path => path
  | none => if ctx.privileged then Bytes.ofText exec.rootPath else Bytes.ofText exec.userPath

/-- Whether a path and its terminating zero byte fit in the limit. -/
def fits (ctx : SearchContext) (path : Bytes) : Bool := path.length + 1 ≤ ctx.pathLimit

theorem fits_iff {ctx : SearchContext} {path : Bytes} :
    ctx.fits path = true ↔ path.length + 1 ≤ ctx.pathLimit := by
  simp [fits]

end SearchContext

namespace Search

/-- The path of `command` in one entry of the list. -/
def candidateIn (command entry : Bytes) : Bytes :=
  if entry.isEmpty then command else entry ++ 0x2F :: command

/-- The path of `command` in every entry of the effective list, fitting or not. -/
def expansions (command : String) (ctx : SearchContext) (exec : ExecSettings) : List Bytes :=
  (Bytes.splitOn 0x3A (ctx.effectivePath exec)).map (candidateIn (Bytes.ofText command))

/-- Every path to try for a bare command, in search order. -/
def candidates (command : String) (ctx : SearchContext) (exec : ExecSettings) : List Bytes :=
  (expansions command ctx exec).filter ctx.fits

/-- The paths that are dropped because they do not fit, in search order. -/
def dropped (command : String) (ctx : SearchContext) (exec : ExecSettings) : List Bytes :=
  (expansions command ctx exec).filter (!ctx.fits ·)

end Search

end Coprocess
