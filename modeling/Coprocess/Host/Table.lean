/-!
# Descriptor tables

A process names its open files by small numbers.  A table binds a number to an open file description
and says whether the binding ends when the process takes on a new image.  New descriptors take the
lowest free number, which is what makes the numbering of a process depend on what it has closed
before.

The table is generic in what a description is, so that the same operations describe a running
machine and a bare bookkeeping of descriptors.  `find?` is the view through which the other
operations are described: `find?_bind`, `find?_remove` and `find?_duplicate` say what they leave
under each number, and `isBound_lowestFree` and `isBound_of_lt_lowestFree` that the lowest free
number is what its name says.
-/

namespace Coprocess.Host

/-- The number by which a process names an open file. -/
abbrev Fd := Nat

/-- What a number is bound to. -/
structure Binding (δ : Type) where
  description : δ
  /-- Whether the binding ends when the process takes on a new image. -/
  cloexec : Bool := false
deriving DecidableEq, Repr

/-- The open files of a process. -/
abbrev Table (δ : Type) := List (Fd × Binding δ)

namespace Table

variable {δ : Type}

/-- What a number is bound to. -/
def find? (t : Table δ) (fd : Fd) : Option (Binding δ) := (List.find? (·.1 == fd) t).map (·.2)

/-- Whether a number is bound. -/
def isBound (t : Table δ) (fd : Fd) : Bool := (t.find? fd).isSome

/-- The table without a number. -/
def remove (t : Table δ) (fd : Fd) : Table δ := t.filter (·.1 != fd)

/-- The table with a number bound anew. -/
def bind (t : Table δ) (fd : Fd) (b : Binding δ) : Table δ := (fd, b) :: t.remove fd

/-- The first free number of `count` candidates from `n` on, or the one after them. -/
def freeFrom (t : Table δ) : Nat → Fd → Fd
  | 0, n => n
  | count + 1, n => if t.isBound n then freeFrom t count (n + 1) else n

/-- The lowest free number that is at least `least`; as many candidates as there are bindings are
enough. -/
def lowestFree (t : Table δ) (least : Fd) : Fd := t.freeFrom t.length least

/-- Binds `target` to what `source` is bound to, to be kept by a new image. -/
def duplicate (t : Table δ) (source target : Fd) : Table δ :=
  match t.find? source with
  | some b => t.bind target { b with cloexec := false }
  | none => t

/-- The table that a new image starts with. -/
def kept (t : Table δ) : Table δ := t.filter (!·.2.cloexec)

/-! ### What each operation leaves under a number -/

theorem find?_remove (t : Table δ) (fd other : Fd) :
    (t.remove fd).find? other = if other = fd then none else t.find? other := by
  induction t with
  | nil => simp [remove, find?]
  | cons entry t ih =>
    simp only [remove, find?] at ih ⊢
    grind

theorem find?_bind (t : Table δ) (fd other : Fd) (b : Binding δ) :
    (t.bind fd b).find? other = if other = fd then some b else t.find? other := by
  by_cases h : other = fd
  · simp [bind, find?, h]
  · have := find?_remove t fd other
    simp_all [bind, find?, Ne.symm h]

theorem find?_duplicate (t : Table δ) (source target other : Fd) :
    (t.duplicate source target).find? other =
      if other = target then
        ((t.find? source).map fun b => { b with cloexec := false }) <|> t.find? target
      else t.find? other := by
  unfold duplicate
  split
  · next b h => by_cases ht : other = target <;> simp [find?_bind, h, ht]
  · next h => by_cases ht : other = target <;> simp [h, ht]

/-! ### The lowest free number -/

theorem le_freeFrom (t : Table δ) (count : Nat) (n : Fd) : n ≤ t.freeFrom count n := by
  induction count generalizing n with
  | zero => simp [freeFrom]
  | succ count ih =>
    simp only [freeFrom]
    split
    · exact Nat.le_trans (Nat.le_succ n) (ih (n + 1))
    · exact Nat.le_refl n

theorem isBound_of_lt_freeFrom (t : Table δ) {count : Nat} {n fd : Fd} (least : n ≤ fd)
    (below : fd < t.freeFrom count n) : t.isBound fd = true := by
  induction count generalizing n with
  | zero => exact absurd below (Nat.not_lt.2 least)
  | succ count ih =>
    simp only [freeFrom] at below
    split at below
    · next bound =>
      by_cases h : fd = n
      · exact h ▸ bound
      · exact ih (Nat.lt_of_le_of_ne least (Ne.symm h)) below
    · exact absurd below (Nat.not_lt.2 least)

theorem length_remove_lt {t : Table δ} {n : Fd} (h : t.isBound n) :
    (t.remove n).length < t.length := by
  have ⟨e, he, hn⟩ : ∃ e ∈ t, e.1 = n := by
    simpa [isBound, find?, List.find?_isSome] using h
  exact List.length_filter_lt_length_iff_exists.2 ⟨e, he, by simp [hn]⟩

/-- What is bound below `n` does not matter for a search from `n` on. -/
theorem freeFrom_remove (t : Table δ) (count : Nat) {n fd : Fd} (h : fd < n) :
    (t.remove fd).freeFrom count n = t.freeFrom count n := by
  induction count generalizing n with
  | zero => rfl
  | succ count ih =>
    have : (t.remove fd).isBound n = t.isBound n := by
      simp [isBound, find?_remove, Nat.ne_of_gt h]
    simp only [freeFrom, this]
    split
    · exact ih (Nat.lt_succ_of_lt h)
    · rfl

theorem isBound_freeFrom (t : Table δ) {count : Nat} (n : Fd) (enough : t.length ≤ count) :
    t.isBound (t.freeFrom count n) = false := by
  induction count generalizing t n with
  | zero =>
    have : t = [] := List.eq_nil_of_length_eq_zero (Nat.le_zero.1 enough)
    simp [this, isBound, find?]
  | succ count ih =>
    simp only [freeFrom]
    split
    · next bound =>
      have shorter := length_remove_lt bound
      have free := ih (t.remove n) (n + 1) (by omega)
      rw [freeFrom_remove t count (Nat.lt_succ_self n)] at free
      have above : n < t.freeFrom count (n + 1) := le_freeFrom t count (n + 1)
      simpa [isBound, find?_remove, Nat.ne_of_gt above] using free
    · next free => simpa using free

theorem isBound_lowestFree (t : Table δ) (least : Fd) : t.isBound (t.lowestFree least) = false :=
  isBound_freeFrom t least (Nat.le_refl _)

theorem isBound_of_lt_lowestFree (t : Table δ) {least fd : Fd} (h : least ≤ fd)
    (below : fd < t.lowestFree least) : t.isBound fd = true :=
  isBound_of_lt_freeFrom t h below

end Table

end Coprocess.Host
