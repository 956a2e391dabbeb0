import Coprocess.Host.Terminal
import Coprocess.Proofs.Forwarding
import Mathlib.Logic.Relation

/-!
# Input that is typed

On a terminal the end of the input is a character.  What it does depends on the line that is being
typed: an empty one becomes an empty record, which reads as the end of a file, and any other becomes
a record without a line end, which reads like the part of a line that it is.  So a reader that goes
on to the end of a file sees that end only if the input is empty or ends with a line end; after
anything else it gets all of the input and then waits.

`Lines` is the input side of a terminal that collects lines of any length.  A `Sitting` is a reader
on such a terminal while characters are still being typed, and `Sitting.Step` lets the two go on in
any order and the reader take any number of bytes at a time.

Main statements:
* `FrontEnd.reader_gets_input`: what the reader of a terminal gets of a standard input that is
  forwarded, and when it sees the end;
* `Terminal.lines_type` and `Terminal.lines_read`: the terminal of the host is such a terminal as
  long as its limit for unread characters is not reached.
-/

namespace Coprocess

open Host Program

namespace Host

/-! ### Lines -/

/-- The input side of a terminal that collects lines. -/
structure Lines where
  /-- The line being typed. -/
  pending : Bytes := []
  /-- What can be read, record by record. -/
  records : List Bytes := []
deriving DecidableEq

namespace Lines

/-- A character is typed: a line end makes the line a record together with it, the end-of-file
character makes it a record without it, and any other character becomes part of the line. -/
def type (l : Lines) (c : UInt8) : Lines :=
  if c = 10 then { pending := [], records := l.records ++ [l.pending ++ [10]] }
  else if c = Terminal.endOfFileChar then { pending := [], records := l.records ++ [l.pending] }
  else { l with pending := l.pending ++ [c] }

/-- What a read of at most `count` bytes gets and what it leaves; without a record it waits. -/
def read (l : Lines) (count : Nat) : Option (Bytes × Lines) :=
  match l.records with
  | [] => none
  | record :: rest =>
    some (record.take count,
      { l with records := if record.length ≤ count then rest else record.drop count :: rest })

/-- A read that comes upon records that are not empty takes some of their bytes and leaves the
others. -/
theorem exists_of_read {pending data : Bytes} {front tail : List Bytes} {count : Nat} {l : Lines}
    (positive : 0 < count) (present : front ≠ []) (full : [] ∉ front)
    (reads : read ⟨pending, front ++ tail⟩ count = some (data, l)) :
    ∃ left, l = ⟨pending, left ++ tail⟩ ∧ data ++ left.flatten = front.flatten ∧ [] ∉ left ∧
      data ≠ [] := by
  obtain ⟨record, rest, rfl⟩ := List.exists_cons_of_ne_nil present
  cases reads
  obtain ⟨first, others⟩ : [] ≠ record ∧ [] ∉ rest := by simpa using full
  have taken : record.take count ≠ [] := by
    simpa [List.take_eq_nil_iff, first.symm] using Nat.ne_of_gt positive
  by_cases short : record.length ≤ count
  · refine ⟨rest, ?_, by simp [List.take_of_length_le short], others, taken⟩
    rw [if_pos short]
    rfl
  · refine ⟨record.drop count :: rest, ?_, ?_, by simpa [others] using short, taken⟩
    · rw [if_neg short]
      rfl
    · rw [List.flatten_cons, ← List.append_assoc, List.take_append_drop, List.flatten_cons]

/-- How many bytes and records wait to be read, now or once the line is complete. -/
def weight (l : Lines) : Nat :=
  l.records.flatten.length + l.records.length + l.pending.length

theorem weight_type (l : Lines) (c : UInt8) : (l.type c).weight ≤ l.weight + 2 := by
  unfold type
  split
  · simp [weight]
    omega
  · split
    · simp [weight]
      omega
    · simp [weight]
      omega

theorem weight_read {l l' : Lines} {count : Nat} {data : Bytes} (positive : 0 < count)
    (reads : l.read count = some (data, l')) : l'.weight < l.weight := by
  unfold read at reads
  split at reads
  · cases reads
  next record rest listed =>
    cases reads
    simp only [weight, listed]
    split
    · simp
      omega
    · simp
      omega

end Lines

/-! ### The terminal of the host -/

namespace Terminal

/-- The input side of a terminal. -/
def lines (t : Terminal) : Lines := { pending := t.line.reverse, records := t.records }

/-- The terminal collects lines, is not about to take a character as it is, and has dealt with all
that was typed. -/
structure Collects (t : Terminal) : Prop where
  canonical : t.modes.canonical = true
  literal : t.literal = false
  backlog : t.backlog = []

variable {t : Terminal} {c : UInt8}

/-- Showing a character changes nothing on the input side. -/
theorem put_input (t : Terminal) (c : UInt8) :
    (t.put c).lines = t.lines ∧ (t.Collects → (t.put c).Collects) := by
  unfold put
  repeat' split
  all_goals exact ⟨rfl, fun h => ⟨h.canonical, h.literal, h.backlog⟩⟩

theorem echo_input (t : Terminal) (c : UInt8) :
    (t.echo c).lines = t.lines ∧ (t.Collects → (t.echo c).Collects) := by
  unfold echo
  split
  · exact ⟨rfl, id⟩
  · split
    · obtain ⟨first, keeps⟩ := t.put_input 0x5E
      obtain ⟨second, keeps'⟩ := (t.put 0x5E).put_input (c ^^^ 64)
      exact ⟨second.trans first, fun h => keeps' (keeps h)⟩
    · exact t.put_input c

/-- An ordinary character becomes part of the line. -/
theorem add_input (t : Terminal) (c : UInt8) :
    (t.add c).lines = { t.lines with pending := t.lines.pending ++ [c] } ∧
      (t.Collects → (t.add c).Collects) := by
  unfold add
  dsimp only
  split
  all_goals
    refine ⟨(echo_input _ c).1.trans (by simp [lines]), fun h => (echo_input _ c).2 ?_⟩
    exact ⟨h.canonical, h.literal, h.backlog⟩

theorem showEchoed_input (t : Terminal) :
    t.showEchoed.lines = t.lines ∧ (t.Collects → t.showEchoed.Collects) := by
  unfold showEchoed
  split
  · exact ⟨rfl, id⟩
  · exact ⟨rfl, fun h => ⟨h.canonical, h.literal, h.backlog⟩⟩

theorem endLine_input (t : Terminal) (terminator : Bytes) :
    (t.endLine terminator).lines =
        { pending := [], records := t.lines.records ++ [t.lines.pending ++ terminator] } ∧
      (t.Collects → (t.endLine terminator).Collects) :=
  ⟨rfl, fun h => ⟨h.canonical, h.literal, h.backlog⟩⟩

/-- A control character that has no meaning for lines. -/
def IsOtherControl (k : UInt8) : Prop := isControl k = true ∧ k ≠ 10 ∧ k ≠ endOfFileChar

instance : DecidablePred IsOtherControl := fun _ => inferInstanceAs (Decidable (_ ∧ _))

theorem beq_of_isOtherControl {k : UInt8} (plain : ¬ IsOtherControl c) (other : IsOtherControl k) :
    (c == k) = false :=
  beq_eq_false_iff_ne.2 fun same => plain (same ▸ other)

/-- The editor treats such characters as lines do. -/
theorem edit_input (plain : ¬ IsOtherControl c) :
    (t.edit c).lines = t.lines.type c ∧ (t.Collects → (t.edit c).Collects) := by
  have edited : t.edit c =
      if c = 10 then (if t.modes.echo then t.put 10 else t).endLine [10]
      else if c = endOfFileChar then t.endLine [] else t.add c := by
    simp only [edit, beq_of_isOtherControl plain (show IsOtherControl eraseChar by decide),
      beq_of_isOtherControl plain (show IsOtherControl killChar by decide),
      beq_of_isOtherControl plain (show IsOtherControl wordEraseChar by decide),
      beq_of_isOtherControl plain (show IsOtherControl literalChar by decide),
      beq_of_isOtherControl plain (show IsOtherControl reprintChar by decide),
      Bool.false_and, Bool.false_eq_true, if_false, beq_iff_eq]
  rw [edited, Lines.type]
  split
  · have shown : (if t.modes.echo then t.put 10 else t).lines = t.lines ∧
        (t.Collects → (if t.modes.echo then t.put 10 else t).Collects) := by
      split
      · exact t.put_input 10
      · exact ⟨rfl, id⟩
    obtain ⟨ends, keeps⟩ := endLine_input (if t.modes.echo then t.put 10 else t) [10]
    exact ⟨by rw [ends, shown.1], fun h => keeps (shown.2 h)⟩
  · split
    · obtain ⟨ends, keeps⟩ := t.endLine_input []
      exact ⟨by rw [ends, List.append_nil], keeps⟩
    · exact t.add_input c

/-- A character that is no control character, a line end or the end-of-file character is typed as
into lines, and sends no signal. -/
theorem receive_input (collects : t.Collects) (plain : ¬ IsOtherControl c) :
    (t.receive c).1.lines = t.lines.type c ∧ (t.receive c).1.Collects ∧ (t.receive c).2 = none := by
  have received : t.receive c = (t.edit c, none) := by
    simp only [receive, signalOf, collects.literal, collects.canonical,
      beq_of_isOtherControl plain (show IsOtherControl 13 by decide),
      beq_of_isOtherControl plain (show IsOtherControl startChar by decide),
      beq_of_isOtherControl plain (show IsOtherControl stopChar by decide),
      beq_of_isOtherControl plain (show IsOtherControl interruptChar by decide),
      beq_of_isOtherControl plain (show IsOtherControl quitChar by decide),
      beq_of_isOtherControl plain (show IsOtherControl suspendChar by decide),
      Bool.false_and, Bool.false_eq_true, if_false, if_true, ite_self]
  obtain ⟨typed, keeps⟩ := edit_input (t := t) plain
  rw [received]
  exact ⟨typed, keeps collects, rfl⟩

/-- Each character takes at most one place. -/
theorem pending_receive (collects : t.Collects) (plain : ¬ IsOtherControl c) :
    (t.receive c).1.pending ≤ t.pending + 1 := by
  have count (t : Terminal) :
      t.pending = t.lines.records.flatten.length + t.lines.pending.length := by
    simp [pending, lines]
  rw [count, count, (receive_input collects plain).1, Lines.type]
  split
  · simp
    omega
  · split <;> simp
    omega

/-- Typing some characters for which there is room. -/
theorem typeAll_input {data : Bytes} (signals : List Signal) (collects : t.Collects)
    (plain : ∀ c ∈ data, ¬ IsOtherControl c) (room : t.pending + data.length ≤ inputLimit) :
    (t.typeAll signals data).1.lines = data.foldl Lines.type t.lines ∧
      (t.typeAll signals data).1.Collects ∧ (t.typeAll signals data).2 = signals := by
  induction data generalizing t with
  | nil => exact ⟨rfl, collects, rfl⟩
  | cons c rest ih =>
    obtain ⟨plain, others⟩ := List.forall_mem_cons.1 plain
    rw [List.length_cons] at room
    have hasRoom : t.hasRoom = true := by
      have : t.pending < inputLimit := by omega
      simp [Terminal.hasRoom, this]
    have asItIs : t.makeRoom = t := if_pos (by omega)
    obtain ⟨typed, collects', silent⟩ := receive_input collects plain
    have grown := pending_receive collects plain
    have step : t.typeAll signals (c :: rest) = (t.receive c).1.typeAll signals rest := by
      rw [typeAll, if_pos hasRoom, asItIs]
      simp only [silent, Option.toList_none, List.append_nil]
    rw [step, List.foldl_cons, ← typed]
    exact ih collects' others (by omega)

/-- **What the master of the host's terminal writes** is typed as into lines, if it holds no other
control characters and is within the limit. -/
theorem lines_type {data : Bytes} (collects : t.Collects)
    (plain : ∀ c ∈ data, ¬ IsOtherControl c) (room : t.pending + data.length ≤ inputLimit) :
    (t.type data).1.lines = data.foldl Lines.type t.lines ∧ (t.type data).1.Collects ∧
      (t.type data).2 = [] := by
  have same : { t with backlog := [] } = t := by rw [← collects.backlog]
  obtain ⟨typed, collects', silent⟩ := typeAll_input [] collects plain room
  unfold Terminal.type
  rw [same, collects.backlog, List.nil_append]
  exact ⟨(showEchoed_input _).1.trans typed, (showEchoed_input _).2 collects', silent⟩

/-- **What the slave side of the host's terminal reads** is read as from lines. -/
theorem lines_read {count : Nat} (collects : t.Collects) (readable : t.isReadable = true) :
    t.lines.read count = some ((t.read count).1, (t.read count).2.1.lines) ∧
      (t.read count).2.1.Collects := by
  obtain ⟨record, rest, listed⟩ : ∃ record rest, t.records = record :: rest := by
    refine List.exists_cons_of_ne_nil fun none => ?_
    simp [isReadable, none, collects.canonical] at readable
  obtain ⟨left, taken, fewer, collects'⟩ : ∃ left, t.take count = (record.take count, left) ∧
      t.lines.read count = some (record.take count, left.lines) ∧ left.Collects := by
    simp only [take, collects.canonical, if_true, listed, Lines.read, lines]
    exact ⟨_, rfl, rfl, collects.canonical, collects.literal, collects.backlog⟩
  have reads : t.read count = (record.take count, left.type []) := by rw [Terminal.read, taken]
  have untouched : left.type [] = (left.showEchoed, []) := by
    have same : { left with backlog := [] } = left := by rw [← collects'.backlog]
    rw [Terminal.type, same, collects'.backlog]
    rfl
  rw [reads, untouched, fewer, (showEchoed_input left).1]
  exact ⟨rfl, (showEchoed_input left).2 collects'⟩

end Terminal

/-! ### A reader at a terminal -/

/-- A process that reads its terminal until the end of a file, while characters are typed. -/
structure Sitting where
  /-- The characters that are still to be typed. -/
  untyped : Bytes
  lines : Lines := {}
  /-- What the reader has read. -/
  got : Bytes := []
  /-- Whether the reader has seen the end of a file. -/
  ended : Bool := false
deriving DecidableEq

namespace Sitting

/-- One thing that happens. -/
inductive Step : Sitting → Sitting → Prop
  /-- The next character is typed. -/
  | type {s : Sitting} {c : UInt8} {rest : Bytes} : s.untyped = c :: rest →
      Step s { s with untyped := rest, lines := s.lines.type c }
  /-- The reader gets some bytes, and will read again. -/
  | read {s : Sitting} {count : Nat} {data : Bytes} {l : Lines} : s.ended = false → 0 < count →
      s.lines.read count = some (data, l) → data ≠ [] →
      Step s { s with lines := l, got := s.got ++ data }
  /-- The reader gets nothing although it asked for something: this is the end of the file. -/
  | finish {s : Sitting} {count : Nat} {l : Lines} : s.ended = false → 0 < count →
      s.lines.read count = some ([], l) → Step s { s with lines := l, ended := true }

/-- Everything is typed, and the reader has seen the end of the file or waits for more. -/
def Finished (s : Sitting) : Prop := ∀ s', ¬ Step s s'

/-- How much can still happen, at most. -/
def left (s : Sitting) : Nat := 3 * s.untyped.length + s.lines.weight

theorem Step.left_lt {s s' : Sitting} (step : Step s s') : s'.left < s.left := by
  cases step with
  | @type c rest next =>
    have := s.lines.weight_type c
    simp only [left, next, List.length_cons]
    omega
  | read _ positive reads _ => exact Nat.add_lt_add_left (Lines.weight_read positive reads) _
  | finish _ positive reads => exact Nat.add_lt_add_left (Lines.weight_read positive reads) _

/-- Whatever has happened, it comes to a point where nothing more can. -/
theorem exists_finished (s : Sitting) : ∃ s', Relation.ReflTransGen Step s s' ∧ s'.Finished := by
  induction h : s.left using Nat.strongRecOn generalizing s with
  | _ n ih =>
    by_cases stuck : s.Finished
    · exact ⟨s, .refl, stuck⟩
    · obtain ⟨next, step⟩ := not_forall_not.1 stuck
      obtain ⟨s', steps, finished⟩ := ih next.left (h ▸ step.left_lt) next rfl
      exact ⟨s', .head step steps, finished⟩

/-- A reader that has not seen the end of a file can go on if there is a record. -/
theorem not_finished_of_record {s : Sitting} {record : Bytes} {rest : List Bytes}
    (reading : s.ended = false) (listed : s.lines.records = record :: rest) : ¬ s.Finished := by
  intro finished
  obtain ⟨l, reads⟩ : ∃ l, s.lines.read 1 = some (record.take 1, l) := by
    rw [Lines.read, listed]
    exact ⟨_, rfl⟩
  cases record with
  | nil => exact finished _ (.finish reading Nat.one_pos reads)
  | cons c others => exact finished _ (.read reading Nat.one_pos reads (by simp))

end Sitting

end Host

/-! ### Input and its end -/

/-- The input is empty or ends with a line end. -/
def Complete (b : Bytes) : Prop := b = [] ∨ b.getLast? = some 10

instance : DecidablePred Complete := fun _ => inferInstanceAs (Decidable (_ ∨ _))

theorem complete_append_newline (b : Bytes) : Complete (b ++ [10]) := .inr List.getLast?_concat

/-- What follows the last line end makes the input incomplete. -/
theorem not_complete_append {b rest : Bytes} (more : rest ≠ []) (noLineEnd : 10 ∉ rest) :
    ¬ Complete (b ++ rest) := by
  rintro (none | last)
  · exact more (List.append_eq_nil_iff.1 none).2
  · rw [List.getLast?_append, List.getLast?_eq_some_getLast more] at last
    exact noLineEnd (Option.some.inj last ▸ List.getLast_mem more)

namespace Host.Sitting

/-- How far a reader is with the input `b`, which is typed and followed by one end-of-file
character. -/
inductive Progress (b : Bytes) : Sitting → Prop
  /-- Of the input, `rest` is still to be typed. -/
  | typing {rest got : Bytes} {l : Lines} : got ++ l.records.flatten ++ l.pending ++ rest = b →
      Complete (got ++ l.records.flatten) → [] ∉ l.records → 10 ∉ l.pending →
      Progress b ⟨rest ++ [Terminal.endOfFileChar], l, got, false⟩
  /-- Everything is typed, and the end-of-file character ended a line that was not empty. -/
  | cut {got : Bytes} {records : List Bytes} : got ++ records.flatten = b → ¬ Complete b →
      [] ∉ records → Progress b ⟨[], ⟨[], records⟩, got, false⟩
  /-- Everything is typed, and behind the lines there is an empty record. -/
  | whole {got : Bytes} {records : List Bytes} : got ++ records.flatten = b → Complete b →
      [] ∉ records → Progress b ⟨[], ⟨[], records ++ [[]]⟩, got, false⟩
  | ended : Complete b → Progress b ⟨[], {}, b, true⟩

/-- **Progress** is kept when a character is typed. -/
theorem Progress.type {b rest : Bytes} {c : UInt8} {s : Sitting}
    (plain : Terminal.endOfFileChar ∉ b) (progress : Progress b s) (next : s.untyped = c :: rest) :
    Progress b { s with untyped := rest, lines := s.lines.type c } := by
  cases progress with
  | @typing untyped got l parts complete full noLineEnd =>
    cases untyped with
    | nil =>
      -- The character is the last one, and what it does depends on the line.
      obtain ⟨rfl, rfl⟩ := List.cons.inj next
      rw [List.append_nil] at parts
      have typed : l.type Terminal.endOfFileChar = ⟨[], l.records ++ [l.pending]⟩ := rfl
      by_cases empty : l.pending = []
      · rw [empty, List.append_nil] at parts
        simp only [typed, empty]
        exact .whole parts (parts ▸ complete) full
      · have cut : ¬ Complete b := parts ▸ not_complete_append empty noLineEnd
        simp only [typed]
        exact .cut (by simpa using parts) cut (by simpa [full] using Ne.symm empty)
    | cons c' others =>
      obtain ⟨rfl, rfl⟩ := List.cons.inj next
      have ordinary : c' ≠ Terminal.endOfFileChar := by
        rintro rfl
        exact plain (parts ▸ by simp)
      by_cases lineEnd : c' = 10
      · have typed : l.type c' = ⟨[], l.records ++ [l.pending ++ [10]]⟩ := if_pos lineEnd
        simp only [typed]
        refine .typing ?_ ?_ (by simp [full]) List.not_mem_nil
        · rw [← parts, lineEnd]
          simp
        · have whole := complete_append_newline (got ++ l.records.flatten ++ l.pending)
          simpa using whole
      · have typed : l.type c' = { l with pending := l.pending ++ [c'] } := by
          rw [Lines.type, if_neg lineEnd, if_neg ordinary]
        simp only [typed]
        exact .typing (by simpa using parts) complete full
          (by simpa [noLineEnd] using Ne.symm lineEnd)
  | cut => cases next
  | whole => cases next
  | ended => cases next

/-- **Progress** is kept when the reader gets some bytes. -/
theorem Progress.read {b data : Bytes} {count : Nat} {l : Lines} {s : Sitting}
    (progress : Progress b s) (reading : s.ended = false) (positive : 0 < count)
    (reads : s.lines.read count = some (data, l)) (bytes : data ≠ []) :
    Progress b { s with lines := l, got := s.got ++ data } := by
  cases progress with
  | @typing untyped got lines parts complete full noLineEnd =>
    obtain ⟨pending, records⟩ := lines
    have present : records ≠ [] := by
      rintro rfl
      cases reads
    rw [← List.append_nil records] at reads
    obtain ⟨left, rfl, same, full', -⟩ := Lines.exists_of_read positive present full reads
    have kept : got ++ data ++ left.flatten = got ++ records.flatten := by
      rw [List.append_assoc, same]
    rw [List.append_nil]
    refine .typing ?_ ?_ full' noLineEnd
    · rw [kept]
      exact parts
    · rw [kept]
      exact complete
  | @cut got records parts incomplete full =>
    have present : records ≠ [] := by
      rintro rfl
      cases reads
    rw [← List.append_nil records] at reads
    obtain ⟨left, rfl, same, full', -⟩ := Lines.exists_of_read positive present full reads
    rw [List.append_nil]
    exact .cut (by rw [List.append_assoc, same, parts]) incomplete full'
  | @whole got records parts complete full =>
    have present : records ≠ [] := by
      rintro rfl
      cases reads
      exact bytes List.take_nil
    obtain ⟨left, rfl, same, full', -⟩ := Lines.exists_of_read positive present full reads
    exact .whole (by rw [List.append_assoc, same, parts]) complete full'
  | ended => cases reading

/-- **Progress** is kept when the reader sees the end of the file. -/
theorem Progress.finish {b : Bytes} {count : Nat} {l : Lines} {s : Sitting}
    (progress : Progress b s) (reading : s.ended = false) (positive : 0 < count)
    (reads : s.lines.read count = some ([], l)) :
    Progress b { s with lines := l, ended := true } := by
  -- A record that is not empty is not the end, so that it can only come behind all others.
  have last {pending : Bytes} {records tail : List Bytes} (full : [] ∉ records)
      (reads : Lines.read ⟨pending, records ++ tail⟩ count = some ([], l)) : records = [] := by
    by_contra present
    obtain ⟨_, -, -, -, bytes⟩ := Lines.exists_of_read positive present full reads
    exact bytes rfl
  cases progress with
  | @typing untyped got lines parts complete full noLineEnd =>
    obtain ⟨pending, records⟩ := lines
    rw [← List.append_nil records] at reads
    obtain rfl := last full reads
    cases reads
  | @cut got records parts incomplete full =>
    rw [← List.append_nil records] at reads
    obtain rfl := last full reads
    cases reads
  | @whole got records parts complete full =>
    obtain rfl := last full reads
    obtain rfl : ({} : Lines) = l := by simpa [Lines.read] using reads
    obtain rfl : got = b := by simpa using parts
    exact .ended complete
  | ended => cases reading

/-- **Progress** is kept, whatever happens next. -/
theorem Progress.step {b : Bytes} {s s' : Sitting} (plain : Terminal.endOfFileChar ∉ b)
    (progress : Progress b s) (step : Step s s') : Progress b s' := by
  cases step with
  | type next => exact progress.type plain next
  | read reading positive reads bytes => exact progress.read reading positive reads bytes
  | finish reading positive reads => exact progress.finish reading positive reads

variable {b : Bytes} {s : Sitting}

theorem Progress.of_steps {s' : Sitting} (plain : Terminal.endOfFileChar ∉ b)
    (progress : Progress b s) (steps : Relation.ReflTransGen Step s s') : Progress b s' := by
  induction steps with
  | refl => exact progress
  | tail _ step ih => exact ih.step plain step

theorem Progress.start (b : Bytes) : Progress b ⟨b ++ [Terminal.endOfFileChar], {}, [], false⟩ :=
  .typing rfl (.inl rfl) List.not_mem_nil List.not_mem_nil

/-- What was read is the first part of the input. -/
theorem Progress.got_prefix (progress : Progress b s) : s.got <+: b := by
  cases progress with
  | typing parts => exact ⟨_, by rw [← parts, List.append_assoc, List.append_assoc]⟩
  | cut parts => exact ⟨_, parts⟩
  | whole parts => exact ⟨_, parts⟩
  | ended => exact List.prefix_rfl

/-- A reader that has seen the end of the file has read all of the input. -/
theorem Progress.got_of_ended (progress : Progress b s) (ended : s.ended = true) : s.got = b := by
  cases progress with
  | ended => rfl
  | _ => cases ended

/-- When nothing more happens, the input has been read, and its end has been seen just if it is
complete. -/
theorem Progress.of_finished (progress : Progress b s) (finished : s.Finished) :
    s.got = b ∧ (s.ended = true ↔ Complete b) := by
  cases progress with
  | @typing rest =>
    cases rest with
    | nil => exact (finished _ (.type rfl)).elim
    | cons => exact (finished _ (.type rfl)).elim
  | @cut got records parts incomplete full =>
    cases records with
    | nil => exact ⟨by simpa using parts, by simp [incomplete]⟩
    | cons => exact (not_finished_of_record rfl rfl finished).elim
  | @whole got records =>
    cases records with
    | nil => exact (not_finished_of_record rfl rfl finished).elim
    | cons => exact (not_finished_of_record rfl rfl finished).elim
  | ended complete => exact ⟨rfl, by simp [complete]⟩

end Host.Sitting

/-! ### Forwarded input -/

namespace FrontEnd

open Host.Sitting

/-- What is typed on a terminal for a standard input all of which is taken. -/
theorem taken_of_forward {input : Fd} {t : List Exchange} {b : Bytes}
    (run : (forward input true).Yields t ()) (reads : received t = b) (quiet : ¬ ToldOfEnd t) :
    taken input t = b ++ [Terminal.endOfFileChar] := by
  obtain ⟨lost, parts, whole⟩ := carried_of_forward run
  rw [whole quiet, List.append_nil, reads] at parts
  exact parts.symm

/-- **The input that is forwarded to a terminal.**  If all of it is taken, the terminal's reader
reads nothing else.  Whatever happens in whatever order, it comes to a point where nothing more can,
and there the reader has read all of the input, and has seen its end just if the input is empty or
ends with a line end. -/
theorem reader_gets_input {input : Fd} {t : List Exchange} {b : Bytes} {s : Sitting}
    (run : (forward input true).Yields t ()) (reads : received t = b) (quiet : ¬ ToldOfEnd t)
    (plain : ∀ c ∈ b, Terminal.isControl c = true → c = 10)
    (steps : Relation.ReflTransGen Step ⟨taken input t, {}, [], false⟩ s) :
    s.got <+: b ∧ (s.ended = true → s.got = b) ∧
      (∃ s', Relation.ReflTransGen Step s s' ∧ s'.Finished) ∧
      (s.Finished → s.got = b ∧ (s.ended = true ↔ Complete b)) := by
  have ordinary : Terminal.endOfFileChar ∉ b := fun listed => by
    cases plain _ listed (by decide)
  rw [taken_of_forward run reads quiet] at steps
  have progress := (Progress.start b).of_steps ordinary steps
  exact ⟨progress.got_prefix, progress.got_of_ended, s.exists_finished, progress.of_finished⟩

/-- The input is two lines, the second of them empty, and the reader sees the end. -/
theorem reader_gets_input_of_lines : ∃ t s, (forward 5 true).Yields t () ∧
    received t = [97, 10, 10] ∧ Relation.ReflTransGen Step ⟨taken 5 t, {}, [], false⟩ s ∧
    s.Finished ∧ s.got = [97, 10, 10] ∧ s.ended = true := by
  obtain ⟨t, run, reads, quiet⟩ := exists_forward 5 [97, 10, 10]
  have plain : ∀ c ∈ ([97, 10, 10] : Bytes), Terminal.isControl c = true → c = 10 := by
    rw [List.forall_mem_cons, List.forall_mem_cons, List.forall_mem_cons]
    exact ⟨by decide, by decide, by decide, nofun⟩
  obtain ⟨s, steps, finished⟩ := exists_finished ⟨taken 5 t, {}, [], false⟩
  obtain ⟨-, -, -, last⟩ := reader_gets_input run reads quiet plain steps
  obtain ⟨got, ended⟩ := last finished
  exact ⟨t, s, run, reads, steps, finished, got, ended.2 (by decide)⟩

/-- The end of the input does not always reach the reader: after three characters without a line end
it waits. -/
theorem not_forall_end_reaches_reader :
    ¬ ∀ (input : Fd) (t : List Exchange) (b : Bytes) (s : Sitting),
      (forward input true).Yields t () → received t = b → ¬ ToldOfEnd t →
      (∀ c ∈ b, Terminal.isControl c = true → c = 10) →
      Relation.ReflTransGen Step ⟨taken input t, {}, [], false⟩ s → s.Finished →
      s.got = b ∧ s.ended = true := by
  intro reaches
  obtain ⟨t, run, reads, quiet⟩ := exists_forward 5 [97, 98, 99]
  obtain ⟨s, steps, finished⟩ := exists_finished ⟨taken 5 t, {}, [], false⟩
  have plain : ∀ c ∈ ([97, 98, 99] : Bytes), Terminal.isControl c = true → c = 10 := by
    rw [List.forall_mem_cons, List.forall_mem_cons, List.forall_mem_cons]
    exact ⟨by decide, by decide, by decide, nofun⟩
  obtain ⟨-, ended⟩ := reaches 5 t _ s run reads quiet plain steps finished
  rw [taken_of_forward run reads quiet] at steps
  have progress := (Progress.start [97, 98, 99]).of_steps (by decide) steps
  exact absurd ((progress.of_finished finished).2.1 ended) (by decide)

end FrontEnd

end Coprocess
