import Coprocess.Bytes

/-!
# Environments

A process has an environment block, a list of byte strings that mostly have the form `NAME=value`.
It is passed on by splitting each entry into name and value and joining them again; an entry is
split at its first `=` after the first byte, so that a name may itself begin with `=`, and one that
cannot be split is left out.  What is passed on is therefore the list of the entries that can be
split, each byte for byte (`inherited_eq_filter`).
-/

namespace Coprocess.Environment

/-- The bytes before the first `=`, and those after it if there is one. -/
def cutAtEquals : Bytes → Bytes × Option Bytes
  | [] => ([], none)
  | b :: rest =>
    if b == 0x3D then ([], some rest)
    else
      let (name, value) := cutAtEquals rest
      (b :: name, value)

/-- The name and value of an entry. -/
def split (entry : Bytes) : Option (Bytes × Bytes) :=
  match entry with
  | [] => none
  | first :: rest =>
    match cutAtEquals rest with
    | (name, some value) => some (first :: name, value)
    | (_, none) => none

/-- The entry of a name and value. -/
def join (name value : Bytes) : Bytes := name ++ 0x3D :: value

/-- The entries of a block that can be split, each put together again. -/
def inherited (block : List Bytes) : List Bytes :=
  (block.filterMap split).map fun (name, value) => join name value

/-- The value of a name: that of the first entry that begins with it and `=`. -/
def get? (name : Bytes) (block : List Bytes) : Option Bytes :=
  (block.find? fun entry => Bytes.beginsWith entry (name ++ [0x3D])).map
    fun entry => entry.drop (name.length + 1)

/-- The value of a name that is given as text. -/
def valueOf (name : String) (block : List Bytes) : Option Bytes := get? (Bytes.ofText name) block

/-- The block with a name set to a value, in its old place if it has one. -/
def put (name value : Bytes) (block : List Bytes) : List Bytes :=
  let isOld := fun entry => Bytes.beginsWith entry (name ++ [0x3D])
  if block.any isOld then block.map fun entry => if isOld entry then join name value else entry
  else block ++ [join name value]

/-- The block without a name. -/
def remove (name : Bytes) (block : List Bytes) : List Bytes :=
  block.filter fun entry => !Bytes.beginsWith entry (name ++ [0x3D])

theorem cutAtEquals_some {rest name value : Bytes} (h : cutAtEquals rest = (name, some value)) :
    name ++ 0x3D :: value = rest := by
  induction rest generalizing name with
  | nil => simp [cutAtEquals] at h
  | cons b rest ih =>
    simp only [cutAtEquals] at h
    split at h
    next hb =>
      have : b = 0x3D := by simpa using hb
      simp_all
    next =>
      obtain ⟨rfl, hv⟩ := Prod.mk.inj h
      simp [ih (Prod.ext rfl hv)]

theorem join_of_split {entry name value : Bytes} (h : split entry = some (name, value)) :
    join name value = entry := by
  cases entry with
  | nil => simp [split] at h
  | cons first rest =>
    simp only [split] at h
    split at h
    next inner v hc =>
      obtain ⟨rfl, rfl⟩ := Prod.mk.inj (Option.some.inj h)
      simp [join, cutAtEquals_some hc]
    next => simp at h

theorem isSome_cutAtEquals (rest : Bytes) :
    (cutAtEquals rest).2.isSome = decide (0x3D ∈ rest) := by
  induction rest with
  | nil => simp [cutAtEquals]
  | cons b rest ih =>
    by_cases hb : b = 0x3D
    · simp [cutAtEquals, hb]
    · simp [cutAtEquals, hb, ih, Ne.symm hb]

/-- An entry can be split just if it has a `=` after its first byte. -/
theorem isSome_split (entry : Bytes) : (split entry).isSome = decide (0x3D ∈ entry.tail) := by
  cases entry with
  | nil => simp [split]
  | cons first rest =>
    rw [List.tail_cons, ← isSome_cutAtEquals]
    unfold split
    rcases h : cutAtEquals rest with ⟨name, _ | value⟩ <;> simp [h]

theorem inherited_eq_filter (block : List Bytes) :
    inherited block = block.filter fun entry => (split entry).isSome := by
  induction block with
  | nil => rfl
  | cons entry rest ih =>
    unfold inherited at ih ⊢
    cases h : split entry with
    | none => simpa [h] using ih
    | some pair => simpa [h, join_of_split h] using ih

end Coprocess.Environment
