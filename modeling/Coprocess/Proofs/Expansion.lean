import Coprocess.Bytes.Lemmas
import Coprocess.Search
import Mathlib.Data.List.FinRange

/-!
# From a list of directories to candidates and back

A name is looked up in every entry of a list of directories, and the paths that do not fit the limit
are left out.  Nothing else happens to the list on the way: the candidates are the paths of the
entries at certain positions, taken in ascending order, and these positions are the ones whose path
fits (`Search.exists_positions`).

A path tells which entry it comes from (`Search.entryOf`), because a name that stands alone is
shorter than one behind a separator.  So the list of directories can be read back from the
candidates if none was left out (`Search.listOf_candidates`).

Main statement:
* `Search.candidates_faithful`: what the candidates of a name are, and that different lists have
  different candidates unless some are left out.
-/

namespace Coprocess.Search

/-! ### Reading a list back -/

/-- The entry that a path of a name was made from: the empty one if the name stands alone, and
otherwise what is before the separator and the name. -/
def entryOf (name path : Bytes) : Option Bytes :=
  if path = name then some [] else List.dropSuffix? path (0x2F :: name)

/-- The list of directories that paths of a name were made from. -/
def listOf (name : Bytes) (paths : List Bytes) : Option Bytes :=
  (paths.mapM (entryOf name)).map [0x3A].intercalate

theorem entryOf_candidateIn (name entry : Bytes) :
    entryOf name (candidateIn name entry) = some entry := by
  cases entry with
  | nil => simp [entryOf, candidateIn]
  | cons b entry =>
    have longer : candidateIn name (b :: entry) ≠ name := fun same => by
      have := congrArg List.length same
      simp [candidateIn] at this
      omega
    rw [entryOf, if_neg longer, List.dropSuffix?_eq_some_iff]
    exact ⟨0x2F :: name, rfl, beq_self_eq_true _⟩

theorem listOf_map_candidateIn (name : Bytes) (entries : List Bytes) :
    listOf name (entries.map (candidateIn name)) = some ([0x3A].intercalate entries) := by
  have read : (entries.map (candidateIn name)).mapM (entryOf name) = some entries := by
    induction entries with
    | nil => rfl
    | cons entry entries ih => simp [entryOf_candidateIn, ih]
  rw [listOf, read]
  rfl

/-! ### The last component of a path -/

/-- A path of a name without a separator has the name as its last component. -/
theorem getLast?_splitOn_candidateIn {name : Bytes} (bare : 0x2F ∉ name) (entry : Bytes) :
    (List.splitOn 0x2F (candidateIn name entry)).getLast? = some name := by
  cases entry with
  | nil => simp [candidateIn, List.splitOn_eq_singleton bare]
  | cons b entry =>
    rw [candidateIn, if_neg (by simp), List.splitOn_append_cons_self,
      List.splitOn_eq_singleton bare]
    simp

/-! ### The candidates -/

/-- The members of a list that pass a test are those at certain positions, in their order. -/
theorem exists_positions {α β : Type} (as : List α) (f : α → β) (p : β → Bool) :
    ∃ kept : List (Fin as.length), kept.Pairwise (· < ·) ∧ (∀ i, i ∈ kept ↔ p (f as[i]) = true) ∧
      (as.map f).filter p = kept.map fun i => f as[i] := by
  refine ⟨(List.finRange as.length).filter fun i => p (f as[i]),
    (List.pairwise_lt_finRange _).filter _, fun i => by simp, ?_⟩
  have all : as.map f = (List.finRange as.length).map fun i => f as[i] := by
    rw [← List.ofFn_eq_map]
    exact (List.ofFn_getElem_eq_map as f).symm
  rw [all, List.filter_map]
  rfl

/-- Every entry of the list of directories has its candidate. -/
def Whole (command : String) (ctx : SearchContext) (exec : ExecSettings) : Prop :=
  (candidates command ctx exec).length = (List.splitOn 0x3A (ctx.effectivePath exec)).length

theorem candidates_eq (command : String) (ctx : SearchContext) (exec : ExecSettings) :
    candidates command ctx exec =
      ((List.splitOn 0x3A (ctx.effectivePath exec)).map (candidateIn (Bytes.ofText command))).filter
        ctx.fits := by
  rw [candidates, expansions, Bytes.splitOn_eq_listSplitOn]

theorem mem_candidates_iff {command : String} {ctx : SearchContext} {exec : ExecSettings}
    {path : Bytes} :
    path ∈ candidates command ctx exec ↔
      ∃ entry ∈ List.splitOn 0x3A (ctx.effectivePath exec),
        (candidateIn (Bytes.ofText command) entry).length + 1 ≤ ctx.pathLimit ∧
        candidateIn (Bytes.ofText command) entry = path := by
  rw [candidates_eq, List.mem_filter, SearchContext.fits_iff]
  constructor
  · rintro ⟨made, fits⟩
    obtain ⟨entry, mem, rfl⟩ := List.mem_map.1 made
    exact ⟨entry, mem, fits, rfl⟩
  · rintro ⟨entry, mem, fits, rfl⟩
    exact ⟨List.mem_map_of_mem mem, fits⟩

/-- The list of directories can be read back from the candidates if none was left out. -/
theorem listOf_candidates {command : String} {ctx : SearchContext} {exec : ExecSettings}
    (whole : Whole command ctx exec) :
    listOf (Bytes.ofText command) (candidates command ctx exec) =
      some (ctx.effectivePath exec) := by
  have all : candidates command ctx exec =
      (List.splitOn 0x3A (ctx.effectivePath exec)).map (candidateIn (Bytes.ofText command)) := by
    rw [candidates_eq, List.filter_eq_self, ← List.length_filter_eq_length_iff, ← candidates_eq,
      List.length_map]
    exact whole
  rw [all, listOf_map_candidateIn, List.intercalate_splitOn]

/-- **Expansion loses and invents nothing.** The candidates of a name without a separator are the
paths of the entries whose path fits, in the order of the list.  Each fits and ends in the whole
name.  If every entry has its candidate, the list of directories is read back from them byte for
byte, so that no other list has the same candidates. -/
theorem candidates_faithful {command : String} (bare : '/' ∉ command.toList) (ctx : SearchContext)
    (exec : ExecSettings) :
    let name := Bytes.ofText command
    let entries := List.splitOn 0x3A (ctx.effectivePath exec)
    let pathIn (entry : Bytes) := if entry = [] then name else entry ++ [0x2F] ++ name
    (∃ kept : List (Fin entries.length), kept.Pairwise (· < ·) ∧
      (∀ i, i ∈ kept ↔ (pathIn entries[i]).length + 1 ≤ ctx.pathLimit) ∧
      candidates command ctx exec = kept.map fun i => pathIn entries[i]) ∧
    (∀ path ∈ candidates command ctx exec, path.length + 1 ≤ ctx.pathLimit ∧
      (List.splitOn 0x2F path).getLast? = some name) ∧
    (Whole command ctx exec →
      listOf name (candidates command ctx exec) = some (ctx.effectivePath exec)) ∧
    ∀ (other : SearchContext) (exec' : ExecSettings),
      Whole command ctx exec → Whole command other exec' →
      candidates command ctx exec = candidates command other exec' →
      ctx.effectivePath exec = other.effectivePath exec' := by
  intro name entries pathIn
  have pathIn_eq : pathIn = candidateIn name := by
    funext entry
    cases entry <;> simp [pathIn, candidateIn]
  refine ⟨?_, fun path mem => ?_, listOf_candidates, fun other exec' whole whole' same => ?_⟩
  · obtain ⟨kept, ascending, fits, eq⟩ := exists_positions entries pathIn ctx.fits
    refine ⟨kept, ascending, fun i => (fits i).trans SearchContext.fits_iff, ?_⟩
    rw [← eq, candidates_eq, pathIn_eq]
  · obtain ⟨entry, -, fits, rfl⟩ := mem_candidates_iff.1 mem
    have noSlash : 0x2F ∉ name :=
      mt (Bytes.toUInt8_mem_ofText_iff (a := '/') (by decide)).1 bare
    exact ⟨fits, getLast?_splitOn_candidateIn noSlash entry⟩
  · have read := listOf_candidates whole
    rw [same, listOf_candidates whole'] at read
    exact (Option.some.inj read).symm

/-- A list with an empty entry at each end and a directory with a separator at its end. -/
theorem candidates_faithful_of_empty_entries :
    '/' ∉ "tool".toList ∧
      Whole "tool" ⟨some (Bytes.ofText ":/opt/:"), false, 4096⟩ {} ∧
      candidates "tool" ⟨some (Bytes.ofText ":/opt/:"), false, 4096⟩ {} =
        [Bytes.ofText "tool", Bytes.ofText "/opt//tool", Bytes.ofText "tool"] ∧
      listOf (Bytes.ofText "tool")
          [Bytes.ofText "tool", Bytes.ofText "/opt//tool", Bytes.ofText "tool"] =
        some (Bytes.ofText ":/opt/:") := by
  have bare : '/' ∉ "tool".toList := by decide
  have whole : Whole "tool" ⟨some (Bytes.ofText ":/opt/:"), false, 4096⟩ {} := by rfl
  exact ⟨bare, whole, rfl, (candidates_faithful bare _ {}).2.2.1 whole⟩

end Coprocess.Search
