import Coprocess.Host.Kernel
import Coprocess.Proofs.Runs

/-!
# What becomes of a descriptor table

`Table.after` follows a table through an exchange: a descriptor is closed, bound to the same as
another, or marked, and everything else leaves the table as it is.  It is bookkeeping only, over any
kind of description, and it is what the machine does as well (`table_of_close`,
`table_of_duplicateOnto`, `table_of_setCloexec`).  Requests that make new descriptors are not
followed.

Tables are looked at through `find?`.  `find?_kept` says what a new image finds, for which no number
may be bound twice; that is kept up by every exchange (`Distinct.after`).
-/

namespace Coprocess.Host

namespace Table

variable {δ : Type} {t : Table δ}

/-! ### No number is bound twice -/

/-- No number is bound twice. -/
def Distinct (t : Table δ) : Prop := (t.map Prod.fst).Nodup

theorem Distinct.filter (h : t.Distinct) (keep : Fd × Binding δ → Bool) :
    Distinct (List.filter keep t) :=
  h.sublist (List.filter_sublist.map Prod.fst)

theorem Distinct.remove (h : t.Distinct) (fd : Fd) : (t.remove fd).Distinct := h.filter _

theorem Distinct.bind (h : t.Distinct) (fd : Fd) (b : Binding δ) : (t.bind fd b).Distinct := by
  refine List.nodup_cons.2 ⟨?_, h.remove fd⟩
  intro bound
  obtain ⟨entry, hentry, same⟩ := List.mem_map.1 bound
  have other := (List.mem_filter.1 hentry).2
  simp [same] at other

theorem Distinct.duplicate (h : t.Distinct) (source target : Fd) :
    (t.duplicate source target).Distinct := by
  unfold Table.duplicate
  split
  · exact h.bind _ _
  · exact h

theorem find?_cons (n : Fd) (b : Binding δ) (t : Table δ) (fd : Fd) :
    find? ((n, b) :: t) fd = if n = fd then some b else find? t fd := by
  by_cases h : n = fd <;> simp [find?, h]

theorem isBound_cons_self (fd : Fd) (b : Binding δ) (t : Table δ) :
    isBound ((fd, b) :: t) fd = true := by
  rw [isBound, find?_cons, if_pos rfl]
  rfl

theorem find?_eq_none_iff {fd : Fd} : t.find? fd = none ↔ fd ∉ t.map Prod.fst := by
  rw [find?, Option.map_eq_none_iff, List.find?_eq_none, List.mem_map]
  constructor
  · rintro free ⟨entry, hentry, rfl⟩
    exact free entry hentry (beq_self_eq_true _)
  · intro absent entry hentry same
    exact absent ⟨entry, hentry, by simpa using same⟩

theorem remove_of_free {fd : Fd} (free : t.find? fd = none) : t.remove fd = t := by
  rw [find?_eq_none_iff] at free
  refine List.filter_eq_self.2 fun entry hentry => ?_
  rw [bne_iff_ne]
  rintro rfl
  exact free (List.mem_map_of_mem hentry)

theorem remove_cons (n : Fd) (b : Binding δ) (t : Table δ) (fd : Fd) :
    remove ((n, b) :: t) fd = if n = fd then t.remove fd else (n, b) :: t.remove fd := by
  by_cases same : n = fd <;> simp [remove, same]

/-- What was bound last is closed again. -/
theorem remove_cons_self {fd : Fd} (free : t.find? fd = none) (b : Binding δ) :
    remove ((fd, b) :: t) fd = t := by
  rw [remove_cons, if_pos rfl, remove_of_free free]

theorem mem_of_find? {fd : Fd} {b : Binding δ} (bound : t.find? fd = some b) : (fd, b) ∈ t := by
  obtain ⟨entry, found, rfl⟩ := Option.map_eq_some_iff.1 bound
  have same : entry.1 = fd := by simpa using List.find?_some found
  exact same ▸ List.mem_of_find?_eq_some found

theorem find?_of_mem (h : t.Distinct) {e : Fd × Binding δ} (listed : e ∈ t) :
    t.find? e.1 = some e.2 := by
  induction t with
  | nil => cases listed
  | cons first t ih =>
    obtain ⟨fresh, h⟩ := List.nodup_cons.1 h
    rw [find?_cons]
    rcases List.mem_cons.1 listed with rfl | listed
    · exact if_pos rfl
    · rw [if_neg fun same => fresh (List.mem_map.2 ⟨e, listed, same.symm⟩)]
      exact ih h listed

/-- What is found among some of the bindings. -/
theorem find?_filter (h : t.Distinct) (keep : Binding δ → Bool) (fd : Fd) :
    find? (t.filter fun e => keep e.2) fd = (t.find? fd).filter keep := by
  induction t with
  | nil => rfl
  | cons entry t ih =>
    obtain ⟨n, b⟩ := entry
    obtain ⟨fresh, h⟩ := List.nodup_cons.1 h
    rw [List.filter_cons, find?_cons]
    by_cases keeps : keep b = true
    · rw [if_pos keeps, find?_cons, ih h]
      split
      · simp [Option.filter, keeps]
      · rfl
    · rw [if_neg keeps, ih h]
      split
      next same =>
        -- The number is bound once, so nothing comes in place of the binding that is left out.
        subst same
        simp [find?_eq_none_iff.2 fresh, Option.filter, keeps]
      next => rfl

/-- A new image finds what is bound and not marked. -/
theorem find?_kept (h : t.Distinct) (fd : Fd) :
    t.kept.find? fd = (t.find? fd).filter fun b => !b.cloexec :=
  find?_filter h (fun b => !b.cloexec) fd

/-- A number that is bound can be bound to another, or to itself, and then is not marked. -/
theorem find?_duplicate_of_bound {source target other : Fd} {b : Binding δ}
    (bound : t.find? source = some b) :
    (t.duplicate source target).find? other =
      if other = target then some { b with cloexec := false } else t.find? other := by
  rw [find?_duplicate, bound]
  rfl

/-! ### Through an exchange -/

/-- The table after an exchange.  A request that is refused changes nothing, and binding a number to
itself does not either. -/
def after (t : Table δ) : Exchange → Table δ
  | .reply (.close fd) (.ok _) => t.remove fd
  | .reply (.duplicateOnto fd target) (.ok _) => if fd = target then t else t.duplicate fd target
  | .reply (.setCloexec fd on) (.ok _) =>
    match t.find? fd with
    | some b => t.bind fd { b with cloexec := on }
    | none => t
  | _ => t

/-- The table after a number of exchanges. -/
def afterAll (t : Table δ) (exchanges : List Exchange) : Table δ := exchanges.foldl after t

@[simp] theorem afterAll_cons (x : Exchange) (exchanges : List Exchange) :
    t.afterAll (x :: exchanges) = (t.after x).afterAll exchanges := rfl

@[simp] theorem afterAll_append (first second : List Exchange) :
    t.afterAll (first ++ second) = (t.afterAll first).afterAll second := List.foldl_append

theorem Distinct.after (h : t.Distinct) (x : Exchange) : (t.after x).Distinct := by
  unfold Table.after
  split
  · exact h.remove _
  · split
    · exact h
    · exact h.duplicate _ _
  · split
    · exact h.bind _ _
    · exact h
  · exact h

theorem Distinct.afterAll (h : t.Distinct) (exchanges : List Exchange) :
    (t.afterAll exchanges).Distinct := by
  induction exchanges generalizing t with
  | nil => exact h
  | cons x exchanges ih => exact ih (h.after x)

end Table

namespace Table

variable {δ : Type} {t : Table δ}

/-! ### Making pipes -/

/-- The table with both ends of a new pipe bound and marked, and the numbers they got. -/
def pipe (t : Table δ) (reader writer : δ) : (Fd × Fd) × Table δ :=
  let readEnd := t.lowestFree 0
  let reading := t.bind readEnd ⟨reader, true⟩
  let writeEnd := reading.lowestFree 0
  ((readEnd, writeEnd), reading.bind writeEnd ⟨writer, true⟩)

theorem find?_lowestFree (t : Table δ) : t.find? (t.lowestFree 0) = none := by
  simpa [isBound] using t.isBound_lowestFree 0

/-- Once the lowest free number is bound, the lowest free number is greater. -/
theorem lowestFree_lt_lowestFree_bind (t : Table δ) (b : Binding δ) :
    t.lowestFree 0 < (t.bind (t.lowestFree 0) b).lowestFree 0 := by
  by_contra le
  have free := find?_lowestFree (t.bind (t.lowestFree 0) b)
  rw [find?_bind] at free
  split at free
  · cases free
  next other =>
    -- A smaller number would have been free before.
    have below := Nat.lt_of_le_of_ne (Nat.le_of_not_lt le) other
    have bound := t.isBound_of_lt_lowestFree (Nat.zero_le _) below
    simp [isBound, free] at bound

/-- Both ends get numbers that were free, the read end the lower one. -/
theorem free_pipe (t : Table δ) (reader writer : δ) :
    t.find? (t.pipe reader writer).1.1 = none ∧ t.find? (t.pipe reader writer).1.2 = none ∧
      (t.pipe reader writer).1.1 < (t.pipe reader writer).1.2 := by
  have lower := t.lowestFree_lt_lowestFree_bind ⟨reader, true⟩
  have free := find?_lowestFree (t.bind (t.lowestFree 0) ⟨reader, true⟩)
  rw [find?_bind, if_neg (Nat.ne_of_gt lower)] at free
  exact ⟨t.find?_lowestFree, free, lower⟩

theorem find?_pipe (t : Table δ) (reader writer : δ) (fd : Fd) :
    (t.pipe reader writer).2.find? fd =
      if fd = (t.pipe reader writer).1.2 then some ⟨writer, true⟩
      else if fd = (t.pipe reader writer).1.1 then some ⟨reader, true⟩
      else t.find? fd := by
  rw [pipe, find?_bind, find?_bind]

end Table

/-! ### On the machine -/

namespace World

variable {w w' : World} {pid : Pid}

theorem process?_modify (w : World) (pid : Pid) (f : Process → Process) :
    (w.modify pid f).process? pid = (w.process? pid).map f := by
  unfold process? modify
  induction w.processes with
  | nil => rfl
  | cons entry rest ih =>
    obtain ⟨n, p⟩ := entry
    by_cases h : n = pid
    · simp [h]
    · simpa [h] using ih

/-- A process that has something open is there to be changed. -/
theorem process_modify_of_bound {fd : Fd} {b : Binding Description}
    (bound : (w.process pid).table.find? fd = some b) (f : Process → Process) :
    (w.modify pid f).process pid = f (w.process pid) := by
  unfold process at bound ⊢
  rw [process?_modify]
  cases there : w.process? pid with
  | none =>
    rw [there] at bound
    cases bound
  | some p => rfl

/-- The machine follows the bookkeeping through an exchange of a process, up to the terminals that
are hung up because of it. -/
def Follows (w : World) (pid : Pid) (x : Exchange) (w' : World) : Prop :=
  ∃ w₀, (w' = w₀ ∨ w' = w₀.settle) ∧
    (w₀.process pid).table = (w.process pid).table.after x

theorem table_of_close {fd : Fd} {r : Except Errno Unit}
    (answered : w.answer pid (.close fd) = .reply r w') :
    w.Follows pid (.reply (.close fd) r) w' := by
  simp only [answer, close, description?] at answered
  split at answered
  next b bound =>
    cases answered
    exact ⟨_, .inr rfl, by rw [process_modify_of_bound bound]; rfl⟩
  next =>
    cases answered
    exact ⟨_, .inl rfl, rfl⟩

theorem table_of_duplicateOnto {fd target : Fd} {r : Except Errno Fd}
    (answered : w.answer pid (.duplicateOnto fd target) = .reply r w') :
    w.Follows pid (.reply (.duplicateOnto fd target) r) w' := by
  simp only [answer, duplicateOnto, description?] at answered
  split at answered
  next b bound =>
    by_cases same : fd = target
    · simp only [Outcome.orRefuse, beq_iff_eq, if_pos same] at answered
      cases answered
      exact ⟨_, .inl rfl, by rw [Table.after, if_pos same]⟩
    · simp only [Outcome.orRefuse, beq_iff_eq, if_neg same] at answered
      split at answered
      · cases answered
        exact ⟨_, .inl rfl, rfl⟩
      · cases answered
        refine ⟨_, .inr rfl, ?_⟩
        rw [process_modify_of_bound bound, Table.after, if_neg same]
  next =>
    cases answered
    exact ⟨_, .inl rfl, rfl⟩

theorem table_of_setCloexec {fd : Fd} {on : Bool} {r : Except Errno Unit}
    (answered : w.answer pid (.setCloexec fd on) = .reply r w') :
    w.Follows pid (.reply (.setCloexec fd on) r) w' := by
  simp only [answer, setCloexec, description?] at answered
  split at answered
  next b bound =>
    cases answered
    refine ⟨_, .inl rfl, ?_⟩
    rw [process_modify_of_bound bound, Table.after, bound]
  next =>
    cases answered
    exact ⟨_, .inl rfl, rfl⟩

end World

end Coprocess.Host
