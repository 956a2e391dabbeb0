import Coprocess.Proofs.Plans
import Coprocess.Proofs.Wiring

/-!
# The environment that is passed on

A command without an environment of its own gets that of the caller.  On the way each entry of the
caller's block is taken apart into a name and a value and put together again, and an entry that
cannot be taken apart is left out.  What a split comes to is said by `Environment.Splits`, without
regard to how it is found, and `split_eq_some_iff` is that the two agree; joining then gives the
entry back, whatever bytes it holds.

The main statement is `Plan.passesOn`: what is passed on is the sublist of the entries that have a
`=` after their first byte, and the block decides nothing else of a plan.
-/

namespace Coprocess

open Host

/-! ### Taking an entry apart -/

namespace Environment

/-- The name and the value stand before and after the first `=` of the entry that is not its first
byte. -/
def Splits (entry name value : Bytes) : Prop :=
  entry = name ++ 0x3D :: value ∧ name ≠ [] ∧ 0x3D ∉ name.tail

theorem cutAtEquals_eq_iff {rest name value : Bytes} :
    cutAtEquals rest = (name, some value) ↔ rest = name ++ 0x3D :: value ∧ 0x3D ∉ name := by
  constructor
  · intro cut
    refine ⟨(cutAtEquals_some cut).symm, ?_⟩
    induction rest generalizing name with
    | nil => simp [cutAtEquals] at cut
    | cons b rest ih =>
      rw [cutAtEquals] at cut
      split at cut
      · obtain ⟨rfl, -⟩ := Prod.mk.inj cut
        simp
      next other =>
        obtain ⟨rfl, found⟩ := Prod.mk.inj cut
        have different : b ≠ 0x3D := by simpa using other
        simp [different.symm, ih (Prod.ext rfl found)]
  · rintro ⟨rfl, absent⟩
    induction name with
    | nil => rfl
    | cons b name ih =>
      simp only [List.mem_cons, not_or] at absent
      have different : (b == 0x3D) = false := by simpa using Ne.symm absent.1
      simp [cutAtEquals, different, ih absent.2]

/-- **Splitting** finds the first `=` that is not the first byte. -/
theorem split_eq_some_iff {entry name value : Bytes} :
    split entry = some (name, value) ↔ Splits entry name value := by
  cases entry with
  | nil => simp [split, Splits]
  | cons first rest =>
    constructor
    · intro found
      rw [split] at found
      split at found
      next inner v cut =>
        obtain ⟨rfl, rfl⟩ := Prod.mk.inj (Option.some.inj found)
        obtain ⟨rfl, absent⟩ := cutAtEquals_eq_iff.1 cut
        exact ⟨rfl, List.cons_ne_nil _ _, absent⟩
      · cases found
    · rintro ⟨whole, nonempty, absent⟩
      obtain ⟨b, name, rfl⟩ := List.exists_cons_of_ne_nil nonempty
      obtain ⟨rfl, rfl⟩ := List.cons.inj whole
      have cut : cutAtEquals (name ++ 0x3D :: value) = (name, some value) :=
        cutAtEquals_eq_iff.2 ⟨rfl, absent⟩
      rw [List.append_eq, split, cut]

/-- An entry with a `=` after its first byte is what its name and value are joined to. -/
theorem exists_splits_of_mem {entry : Bytes} (separated : 0x3D ∈ entry.tail) :
    ∃ name value, split entry = some (name, value) ∧ Splits entry name value ∧
      join name value = entry := by
  have found : (split entry).isSome := by simpa [isSome_split] using separated
  obtain ⟨⟨name, value⟩, found⟩ := Option.isSome_iff_exists.1 found
  exact ⟨name, value, found, split_eq_some_iff.1 found, join_of_split found⟩

theorem split_eq_none_iff {entry : Bytes} : split entry = none ↔ 0x3D ∉ entry.tail := by
  rw [← Option.not_isSome_iff_eq_none, isSome_split, decide_eq_true_eq]

/-- What is passed on are the entries with a `=` after their first byte. -/
theorem inherited_eq (block : List Bytes) :
    inherited block = block.filter fun entry => 0x3D ∈ entry.tail := by
  simp only [inherited_eq_filter, isSome_split]

end Environment

namespace Plan

variable {c : Command} {kind : Command.Kind} {ctx : SearchContext} {exec : ExecSettings}
  {block : List Bytes}

/-! ### What a block decides of a plan -/

theorem environmentOf_of_inherited (inherits : c.envv = none) :
    environmentOf c block = block.filter fun entry => 0x3D ∈ entry.tail := by
  rw [environmentOf, inherits]
  exact Environment.inherited_eq block

theorem environmentOf_of_own {entries : List String} (own : c.envv = some entries) :
    environmentOf c block = entries.map Bytes.ofText := by
  rw [environmentOf, own]

/-- Without a zero byte in what is passed on, a plan is built just if one is built without an
environment to pass on, and the two differ in the environment only. -/
theorem build_eq_map_of_clean (inherits : c.envv = none)
    (clean : ∀ entry ∈ environmentOf c block, 0 ∉ entry) :
    build c kind ctx exec block =
      (build c kind ctx exec []).map fun p => { p with envv := environmentOf c block } := by
  have nothing : environmentOf c [] = [] := by
    rw [environmentOf_of_inherited inherits]
    rfl
  have same : (∃ s ∈ (planOf c kind ctx exec block).strings, 0 ∈ s) ↔
      ∃ s ∈ (planOf c kind ctx exec []).strings, 0 ∈ s := by
    have harmless : ¬ ∃ entry ∈ environmentOf c block, 0 ∈ entry :=
      fun ⟨entry, mem, zero⟩ => clean entry mem zero
    simp only [strings, Frame.strings, planOf, nothing, List.mem_append, List.mem_cons,
      or_and_right, exists_or, harmless, List.not_mem_nil, false_and, exists_false]
  simp only [build_eq, checked, same]
  split <;> rfl

/-- What the block of a process decides of the plan for a command. -/
structure PassesOn (c : Command) (kind : Command.Kind) (ctx : SearchContext) (exec : ExecSettings)
    (block : List Bytes) : Prop where
  /-- A command without an environment of its own gets the entries of the block that have a `=`
  after their first byte, in their order and unchanged. -/
  inherited : c.envv = none → ∀ p, build c kind ctx exec block = .ok p →
    p.envv = block.filter fun entry => 0x3D ∈ entry.tail
  /-- It gets them whenever there would be a plan at all: a block without a zero byte, as every
  process has one, is no reason to fail, and nothing else of the plan depends on it. -/
  unhindered : c.envv = none → (∀ entry ∈ block, 0 ∉ entry) →
    build c kind ctx exec block = (build c kind ctx exec []).map fun p =>
      { p with envv := block.filter fun entry => 0x3D ∈ entry.tail }
  /-- A command with an environment of its own gets just that, and the block plays no part. -/
  own : ∀ entries, c.envv = some entries →
    build c kind ctx exec block = build c kind ctx exec [] ∧
    ∀ p, build c kind ctx exec block = .ok p → p.envv = entries.map Bytes.ofText
  /-- An entry that is passed on is taken apart at its first `=` after the first byte, and joining
  the two parts loses nothing. -/
  rejoined : ∀ entry ∈ block, 0x3D ∈ entry.tail → ∃ name value,
    Environment.split entry = some (name, value) ∧ Environment.Splits entry name value ∧
      Environment.join name value = entry
  /-- An entry that is left out cannot be taken apart. -/
  leftOut : ∀ entry ∈ block, 0x3D ∉ entry.tail → Environment.split entry = none
  /-- Whatever image the child asks for, it asks for it with this environment. -/
  handedOver : ∀ p, build c kind ctx exec block = .ok p →
    ∀ t path argv envv, p.run.Asks t (.execute path argv envv) → envv = p.envv

/-- **The environment is passed on unchanged**, for every command, in every context and from every
block. -/
theorem passesOn (c : Command) (kind : Command.Kind) (ctx : SearchContext) (exec : ExecSettings)
    (block : List Bytes) : PassesOn c kind ctx exec block where
  inherited inherits p built := by
    rw [eq_of_build_eq_ok built]
    exact environmentOf_of_inherited inherits
  unhindered inherits clean := by
    have passed : environmentOf c block = block.filter fun entry => 0x3D ∈ entry.tail :=
      environmentOf_of_inherited inherits
    rw [← passed]
    refine build_eq_map_of_clean inherits fun entry mem => ?_
    rw [passed] at mem
    exact clean entry (List.mem_filter.1 mem).1
  own entries given := by
    have plan : planOf c kind ctx exec block = planOf c kind ctx exec [] := by
      simp only [planOf, environmentOf_of_own given]
    refine ⟨by rw [build_eq, build_eq, plan], fun p built => ?_⟩
    rw [eq_of_build_eq_ok built]
    exact environmentOf_of_own given
  rejoined _ _ separated := Environment.exists_splits_of_mem separated
  leftOut _ _ unseparated := Environment.split_eq_none_iff.2 unseparated
  handedOver p _ t path argv envv asks := by
    have only : p.run.Only fun c => ∀ path argv envv, c = .execute path argv envv → envv = p.envv :=
      p.run_only nofun (by rintro _ _ _ _ _ ⟨⟩; rfl) nofun
    exact asks.of_only only path argv envv rfl

/-- A block with an entry twice, without a value, with a second `=`, with a name that begins with
`=`, with bytes that are no text, and with three entries that cannot be taken apart. -/
theorem passesOn_of_awkward_block :
    let block := ["A=1", "A=1", "EMPTY=", "X=y=z", "=C:=d", "", "=", "PLAIN"].map Bytes.ofText ++
      [[0xFF, 0x3D, 0xFE]]
    ∃ p, build (.program "env" ["env"]) .bare ⟨some [], false, 64⟩ {} block = .ok p ∧
      p.envv = ["A=1", "A=1", "EMPTY=", "X=y=z", "=C:=d"].map Bytes.ofText ++
        [[0xFF, 0x3D, 0xFE]] ∧
      PassesOn (.program "env" ["env"]) .bare ⟨some [], false, 64⟩ {} block := by
  intro block
  have passes := passesOn (.program "env" ["env"]) .bare ⟨some [], false, 64⟩ {} block
  refine ⟨_, passes.unhindered rfl (by decide), ?_, passes⟩
  decide

end Plan

end Coprocess
