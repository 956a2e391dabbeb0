import Coprocess.FrontEnd.Output
import Coprocess.Proofs.Runs

/-!
# What becomes of buffered output

The output of the command line passes through a buffer on its way to the standard output.  Each
operation of the buffer is followed through one equation: what was given is what was `accepted`,
then what is held, then what is lost, in this order.  Nothing is lost unless the operation fails
(`Kept`).  So nothing is ever written twice or out of order, and what is missing at the end is what
is still held.

The main statement is `kept_of_put`, which says besides that what stays in the buffer holds no line
end and fits.
-/

namespace Coprocess

open Host Program

variable {t t₁ t₂ : List Exchange}

/-! ### What the standard output takes -/

/-- The bytes that an exchange hands over to the standard output.  One that is closed takes
everything. -/
def Host.Exchange.accepted : Exchange → Bytes
  | .reply (.write fd data) (.ok n) => if fd = standardOutput then data.take n else []
  | .reply (.write fd data) (.error reason) =>
    if fd = standardOutput ∧ reason = .EBADF then data else []
  | _ => []

/-- The bytes that the exchanges of a trace hand over to the standard output. -/
def accepted (t : List Exchange) : Bytes := t.flatMap Exchange.accepted

/-- The exchange is a read or a write that fails because the other side is gone. -/
def Host.Exchange.IsBrokenPipe : Exchange → Prop
  | .reply (.write _ _) (.error reason) => reason = .EPIPE
  | .reply (.read _ _) (.error reason) => reason = .EPIPE
  | _ => False

@[simp] theorem accepted_nil : accepted [] = [] := rfl

@[simp] theorem accepted_append (t₁ t₂ : List Exchange) :
    accepted (t₁ ++ t₂) = accepted t₁ ++ accepted t₂ := List.flatMap_append

namespace FrontEnd

/-- What was given is accepted by the exchanges `t`, is held, or is lost, in this order; it is lost
only by an operation that fails. -/
def Kept (given : Bytes) (t : List Exchange) (r : Except SystemError Unit) (held : Bytes) : Prop :=
  ∃ lost, given = accepted t ++ held ++ lost ∧ (r = .ok () → lost = [])

theorem Kept.eq_of_ok {given held : Bytes} (kept : Kept given t (.ok ()) held) :
    given = accepted t ++ held := by
  obtain ⟨lost, given, whole⟩ := kept
  rw [given, whole rfl, List.append_nil]

/-- Of what is given after that, nothing is taken by an operation that has failed. -/
theorem Kept.fail {given later held : Bytes} {r : Except SystemError Unit} {reason : SystemError}
    (kept : Kept given t r held) : Kept (given ++ later) t (.error reason) held := by
  obtain ⟨lost, rfl, -⟩ := kept
  exact ⟨lost ++ later, by rw [List.append_assoc], nofun⟩

/-- After an operation that succeeds, the next is given what is held, and more. -/
theorem Kept.trans {given later held held' : Bytes} {r : Except SystemError Unit}
    (first : Kept given t₁ (.ok ()) held) (second : Kept (held ++ later) t₂ r held') :
    Kept (given ++ later) (t₁ ++ t₂) r held' := by
  obtain ⟨lost, second, whole⟩ := second
  refine ⟨lost, ?_, whole⟩
  calc given ++ later = accepted t₁ ++ (held ++ later) := by
        rw [first.eq_of_ok, List.append_assoc]
    _ = accepted (t₁ ++ t₂) ++ held' ++ lost := by
        rw [second, accepted_append]
        simp only [List.append_assoc]

/-- An operation that failed because the other side is gone was told so. -/
def Blames (t : List Exchange) (r : Except SystemError Unit) : Prop :=
  r = .error (.os .EPIPE) → ∃ x ∈ t, x.IsBrokenPipe

theorem Blames.append_left {r : Except SystemError Unit} (t₁ : List Exchange)
    (blames : Blames t₂ r) : Blames (t₁ ++ t₂) r := by
  intro broken
  obtain ⟨x, hx, told⟩ := blames broken
  exact ⟨x, List.mem_append_right t₁ hx, told⟩

theorem Blames.append_right {r : Except SystemError Unit} (t₂ : List Exchange)
    (blames : Blames t₁ r) : Blames (t₁ ++ t₂) r := by
  intro broken
  obtain ⟨x, hx, told⟩ := blames broken
  exact ⟨x, List.mem_append_left t₂ hx, told⟩

/-! ### The standard streams -/

theorem writeStream_eq (fd : Fd) (data : Bytes) :
    writeStream fd data = .call (.write fd data) fun
      | .ok n => .done (.ok n)
      | .error reason =>
        if reason = .EBADF then .done (.ok data.length) else .done (.error (.os reason)) := by
  refine congrArg (Program.call _) (funext fun answer => ?_)
  cases answer with
  | ok n => rfl
  | error reason =>
    by_cases closed : reason = .EBADF
    · subst closed
      rfl
    · simp only [done_bind, pure_eq, Except.mapError, if_neg closed]
      split
      next same =>
        cases same
        exact absurd rfl closed
      next => rfl

theorem writeStream_only {P : Call → Prop} {fd : Fd} (ofWrite : ∀ data, P (.write fd data))
    (data : Bytes) : (writeStream fd data).Only P := by
  rw [writeStream_eq]
  refine ⟨ofWrite data, fun answer => ?_⟩
  rcases answer with reason | n
  · show Only _ (if _ then _ else _)
    split <;> exact trivial
  · exact trivial

namespace LineBuffer

/-! ### Writing -/

/-- A write hands over the first part of what it is given, or it fails with the reason that it is
told. -/
theorem accepted_of_writeOut {data : Bytes} {r : Except SystemError Nat}
    (run : (writeOut data).Yields t r) :
    (∃ n, r = .ok n ∧ accepted t = data.take n) ∨
    ∃ reason, r = .error (.os reason) ∧ accepted t = [] ∧
      t = [.reply (.write standardOutput data) (.error reason)] := by
  rw [writeOut, writeStream_eq] at run
  obtain ⟨answer, _, rfl, rest⟩ := yields_call_iff.1 run
  cases answer with
  | ok n =>
    obtain ⟨rfl, rfl⟩ := yields_done_iff.1 rest
    exact .inl ⟨n, rfl, by simp [accepted, Exchange.accepted]⟩
  | error reason =>
    dsimp only at rest
    split at rest
    next closed =>
      obtain ⟨rfl, rfl⟩ := yields_done_iff.1 rest
      exact .inl ⟨data.length, rfl, by simp [accepted, Exchange.accepted, closed]⟩
    next other =>
      obtain ⟨rfl, rfl⟩ := yields_done_iff.1 rest
      exact .inr ⟨reason, rfl, by simp [accepted, Exchange.accepted, other], rfl⟩

/-- One attempt to write some data: what is left of it, or that there is nothing left, or why it
fails. -/
def attempt (data : Bytes) : Program (Bytes ⊕ Except SystemError Unit) :=
  match data with
  | [] => .done (.inr (.ok ()))
  | data => (writeOut data).bind fun
    | .ok 0 => .done (.inr (.error .nothingWritten))
    | .ok n => .done (.inl (data.drop n))
    | .error reason =>
      if reason == .os .EINTR then .done (.inl data) else .done (.inr (.error reason))

theorem writeAll_eq (data : Bytes) : Transfer.writeAll writeOut data = .iterate data attempt := rfl

/-- What comes of one attempt. -/
theorem accepted_of_attempt {data : Bytes} {next : Bytes ⊕ Except SystemError Unit}
    (run : (attempt data).Yields t next) :
    (∃ rest, next = .inl rest ∧ data = accepted t ++ rest) ∨
    (next = .inr (.ok ()) ∧ data = [] ∧ t = []) ∨
    ∃ reason, next = .inr (.error reason) ∧ accepted t = [] ∧ Blames t (.error reason) := by
  unfold attempt at run
  split at run
  · obtain ⟨rfl, rfl⟩ := yields_done_iff.1 run
    exact .inr (.inl ⟨rfl, rfl, rfl⟩)
  · obtain ⟨t₁, r, _, rfl, writes, rest⟩ := yields_bind_iff.1 run
    rcases accepted_of_writeOut writes with ⟨_ | n, rfl, taken⟩ | ⟨reason, rfl, taken, told⟩
    · obtain ⟨rfl, rfl⟩ := yields_done_iff.1 rest
      exact .inr (.inr ⟨_, rfl, by simpa using taken, nofun⟩)
    · obtain ⟨rfl, rfl⟩ := yields_done_iff.1 rest
      refine .inl ⟨_, rfl, ?_⟩
      rw [List.append_nil, taken, List.take_append_drop]
    · dsimp only at rest
      split at rest
      · obtain ⟨rfl, rfl⟩ := yields_done_iff.1 rest
        exact .inl ⟨_, rfl, by rw [List.append_nil, taken, List.nil_append]⟩
      · obtain ⟨rfl, rfl⟩ := yields_done_iff.1 rest
        refine .inr (.inr ⟨_, rfl, by simpa using taken, ?_⟩)
        rintro ⟨⟩
        refine ⟨.reply (.write standardOutput data) (.error .EPIPE), ?_, rfl⟩
        rw [told]
        exact List.mem_cons_self

/-- Writing all of some data hands over a first part of it, and all of it if that succeeds. -/
theorem kept_of_writeAll {data : Bytes} {r : Except SystemError Unit}
    (run : (Transfer.writeAll writeOut data).Yields t r) : Kept data t r [] ∧ Blames t r := by
  rw [writeAll_eq] at run
  refine run.iterate_induction (P := fun data t r => Kept data t r [] ∧ Blames t r) ?_ ?_
  · intro data t r round
    rcases accepted_of_attempt round with ⟨_, ⟨⟩, -⟩ | ⟨⟨⟩, rfl, rfl⟩ | ⟨reason, ⟨⟩, taken, blames⟩
    · exact ⟨⟨[], rfl, fun _ => rfl⟩, nofun⟩
    · exact ⟨⟨data, by rw [taken]; rfl, nofun⟩, blames⟩
  · rintro data rest t₁ t₂ r round ⟨⟨lost, rfl, whole⟩, blames⟩
    rcases accepted_of_attempt round with ⟨_, ⟨⟩, rfl⟩ | ⟨⟨⟩, -⟩ | ⟨_, ⟨⟩, -⟩
    refine ⟨⟨lost, ?_, whole⟩, blames.append_left t₁⟩
    rw [accepted_append, List.append_nil, List.append_nil, List.append_assoc]

/-! ### Flushing -/

/-- What a flush does next after an attempt to write what is held. -/
def flushNext (held : Bytes) :
    Bytes ⊕ Except SystemError Unit → Bytes ⊕ (Except SystemError Unit × LineBuffer)
  | .inl rest => .inl rest
  | .inr (.ok ()) => .inr (.ok (), {})
  | .inr (.error reason) => .inr (.error reason, ⟨held⟩)

theorem flush_eq (b : LineBuffer) :
    b.flush = .iterate b.held fun held => (attempt held).bind fun next =>
      .done (flushNext held next) := by
  unfold flush
  congr
  funext held
  cases held with
  | nil => rfl
  | cons first rest =>
    show (writeOut _).bind _ = ((writeOut _).bind _).bind _
    rw [bind_assoc]
    refine congrArg _ (funext fun r => ?_)
    rcases r with reason | _ | n
    · by_cases interrupted : reason = .os .EINTR <;> simp [interrupted, flushNext]
    · rfl
    · rfl

/-- Of what was held, a flush hands over the first part and holds the rest, which is empty if it
succeeds. -/
theorem held_of_flush {b b' : LineBuffer} {r : Except SystemError Unit}
    (run : b.flush.Yields t (r, b')) :
    b.held = accepted t ++ b'.held ∧ (r = .ok () → b'.held = []) ∧ Blames t r := by
  rw [flush_eq] at run
  refine run.iterate_induction (P := fun held t result => held = accepted t ++ result.2.held ∧
    (result.1 = .ok () → result.2.held = []) ∧ Blames t result.1) ?_ ?_
  · intro held t result round
    obtain ⟨t₁, next, _, rfl, attempts, last⟩ := yields_bind_iff.1 round
    obtain ⟨rfl, after⟩ := yields_done_iff.1 last
    rw [List.append_nil]
    rcases accepted_of_attempt attempts with ⟨_, rfl, -⟩ | ⟨rfl, rfl, rfl⟩ |
      ⟨reason, rfl, taken, blames⟩
    · cases after
    · cases after
      exact ⟨rfl, fun _ => rfl, nofun⟩
    · cases after
      exact ⟨by rw [taken]; rfl, nofun, blames⟩
  · rintro held rest t₁ t₂ result round ⟨given, whole, blames⟩
    obtain ⟨t₁, next, _, rfl, attempts, last⟩ := yields_bind_iff.1 round
    obtain ⟨rfl, after⟩ := yields_done_iff.1 last
    rw [List.append_nil]
    rcases accepted_of_attempt attempts with ⟨_, rfl, rfl⟩ | ⟨rfl, -⟩ | ⟨_, rfl, -⟩
    · cases after
      refine ⟨?_, whole, blames.append_left t₁⟩
      rw [given, accepted_append, List.append_assoc]
    · cases after
    · cases after

theorem kept_of_flush {b b' : LineBuffer} {r : Except SystemError Unit}
    (run : b.flush.Yields t (r, b')) : Kept b.held t r b'.held :=
  ⟨[], by rw [List.append_nil, ← (held_of_flush run).1], fun _ => rfl⟩

/-! ### Holding -/

/-- Makes room for data by writing what is held, if there is not enough. -/
def makeRoom (b : LineBuffer) (data : Bytes) : Program (Except SystemError Unit × LineBuffer) :=
  if capacity < data.length + b.held.length then b.flush else .done (.ok (), b)

theorem hold_eq (b : LineBuffer) (data : Bytes) :
    b.hold data =
      if data.length + b.held.length < capacity then .done (.ok (), ⟨b.held ++ data⟩)
      else (b.makeRoom data).bind fun
        | (.error reason, b) => .done (.error reason, b)
        | (.ok (), b) =>
          if capacity ≤ data.length then
            (Transfer.writeAll writeOut data).bind fun r => .done (r, b)
          else .done (.ok (), ⟨b.held ++ data⟩) := by
  rw [hold, makeRoom]
  split
  · rfl
  · by_cases crowded : capacity < data.length + b.held.length
    · simp only [if_pos crowded]
      refine congrArg _ (funext fun made => ?_)
      obtain ⟨_ | _, b⟩ := made <;> rfl
    · simp only [if_neg crowded]
      rfl

/-- What is held is written if it has to be, and there is room then. -/
theorem kept_of_makeRoom {b b' : LineBuffer} {data : Bytes} {r : Except SystemError Unit}
    (run : (b.makeRoom data).Yields t (r, b')) :
    Kept b.held t r b'.held ∧ Blames t r ∧
      (r = .ok () → b'.held = [] ∨ b'.held.length + data.length ≤ capacity) := by
  rw [makeRoom] at run
  split at run
  next =>
    obtain ⟨-, whole, blames⟩ := held_of_flush run
    exact ⟨kept_of_flush run, blames, fun ok => .inl (whole ok)⟩
  next fits =>
    obtain ⟨rfl, ⟨⟩⟩ := yields_done_iff.1 run
    exact ⟨⟨[], by simp, fun _ => rfl⟩, nofun, fun _ => .inr (by omega)⟩

/-- Data that is put into the buffer comes after what was held, and what is held then fits. -/
theorem kept_of_hold {b b' : LineBuffer} {data : Bytes} {r : Except SystemError Unit}
    (run : (b.hold data).Yields t (r, b')) :
    Kept (b.held ++ data) t r b'.held ∧ Blames t r ∧
      (r = .ok () → b'.held.length ≤ capacity) := by
  rw [hold_eq] at run
  split at run
  next fits =>
    obtain ⟨rfl, ⟨⟩⟩ := yields_done_iff.1 run
    refine ⟨⟨[], by simp, fun _ => rfl⟩, nofun, fun _ => ?_⟩
    rw [List.length_append]
    omega
  next =>
    obtain ⟨t₁, ⟨made, b₁⟩, t₂, rfl, room, rest⟩ := yields_bind_iff.1 run
    obtain ⟨kept, blames, enough⟩ := kept_of_makeRoom room
    cases made with
    | error reason =>
      obtain ⟨rfl, ⟨⟩⟩ := yields_done_iff.1 rest
      rw [List.append_nil]
      exact ⟨kept.fail, blames, nofun⟩
    | ok =>
      dsimp only at rest
      split at rest
      next large =>
        obtain ⟨t₂, r, _, rfl, writes, last⟩ := yields_bind_iff.1 rest
        obtain ⟨rfl, ⟨⟩⟩ := yields_done_iff.1 last
        rw [List.append_nil]
        -- Data that fills the buffer is only written past it when nothing is held.
        have none : b'.held = [] := by
          rcases enough rfl with none | fits
          · exact none
          · exact List.eq_nil_of_length_eq_zero (by omega)
        obtain ⟨written, blames⟩ := kept_of_writeAll writes
        rw [none] at kept ⊢
        exact ⟨kept.trans written, blames.append_left t₁, fun _ => Nat.zero_le _⟩
      next small =>
        obtain ⟨rfl, ⟨⟩⟩ := yields_done_iff.1 rest
        refine ⟨kept.trans ⟨[], by simp, fun _ => rfl⟩, nofun, fun _ => ?_⟩
        rw [List.length_append]
        rcases enough rfl with none | fits
        · rw [none, List.length_nil]
          omega
        · exact fits

/-! ### Lines -/

theorem cutLines_append (data : Bytes) : (cutLines data).1 ++ (cutLines data).2 = data := by
  have suffix : (cutLines data).2 <:+ data := by
    have reversed := List.takeWhile_prefix (· != 10) (l := data.reverse)
    rw [← List.reverse_prefix]
    rwa [← List.reverse_reverse (data.reverse.takeWhile (· != 10))] at reversed
  exact List.suffix_iff_eq_append.1 suffix

theorem not_mem_cutLines (data : Bytes) : 10 ∉ (cutLines data).2 := by
  intro listed
  have passed := List.all_eq_true.1 List.all_takeWhile 10 (List.mem_reverse.1 listed)
  cases passed

/-- Writes complete lines: what is held before them first, and all of it. -/
def putLines (b : LineBuffer) (lines : Bytes) : Program (Except SystemError Unit × LineBuffer) :=
  if lines.isEmpty then if b.held.getLast? == some 10 then b.flush else .done (.ok (), b)
  else if b.held.isEmpty then (Transfer.writeAll writeOut lines).bind fun r => .done (r, b)
  else (b.hold lines).bind fun
    | (.ok (), b) => b.flush
    | failed => .done failed

/-- Whatever comes of the lines, the tail is held next, unless they fail. -/
theorem bind_hold_eq (tail : Bytes) (p : Program (Except SystemError Unit × LineBuffer)) :
    (p.bind fun (written, b) => match written with
      | .error reason => pure (.error reason, b)
      | .ok () => b.hold tail) = p.bind fun
      | (.error reason, b) => .done (.error reason, b)
      | (.ok (), b) => b.hold tail := by
  refine congrArg _ (funext fun r => ?_)
  obtain ⟨_ | _, b⟩ := r <;> rfl

theorem put_eq (b : LineBuffer) (data : Bytes) :
    b.put data = (b.putLines (cutLines data).1).bind fun
      | (.error reason, b) => .done (.error reason, b)
      | (.ok (), b) => b.hold (cutLines data).2 := by
  rw [put, putLines]
  rw [← bind_hold_eq]
  by_cases noLines : (cutLines data).1.isEmpty
  · by_cases left : b.held.getLast? == some 10
    · simp only [noLines, left, if_true]
      rfl
    · simp only [noLines, left, if_true]
      rfl
  · by_cases empty : b.held.isEmpty
    · simp only [noLines, empty, if_true]
      rfl
    · simp only [noLines, empty, Bool.false_eq_true, if_false]
      show (b.hold _).bind _ = ((b.hold _).bind _).bind _
      rw [bind_assoc]
      refine congrArg _ (funext fun r => ?_)
      obtain ⟨_ | _, b⟩ := r <;> rfl

/-- Complete lines come after what was held, and no line end is held after them. -/
theorem kept_of_putLines {b b' : LineBuffer} {lines : Bytes} {r : Except SystemError Unit}
    (run : (b.putLines lines).Yields t (r, b')) :
    Kept (b.held ++ lines) t r b'.held ∧ Blames t r ∧
      (r = .ok () → 10 ∉ b.held → 10 ∉ b'.held) := by
  rw [putLines] at run
  split at run
  next none =>
    rw [List.isEmpty_iff] at none
    rw [none, List.append_nil]
    split at run
    · obtain ⟨-, whole, blames⟩ := held_of_flush run
      exact ⟨kept_of_flush run, blames, fun ok _ => by rw [whole ok]; exact List.not_mem_nil⟩
    · obtain ⟨rfl, ⟨⟩⟩ := yields_done_iff.1 run
      exact ⟨⟨[], by simp, fun _ => rfl⟩, nofun, fun _ clean => clean⟩
  next =>
    split at run
    next empty =>
      obtain ⟨t₁, r, _, rfl, writes, last⟩ := yields_bind_iff.1 run
      obtain ⟨rfl, ⟨⟩⟩ := yields_done_iff.1 last
      obtain ⟨written, blames⟩ := kept_of_writeAll writes
      rw [List.isEmpty_iff] at empty
      rw [empty, List.nil_append, List.append_nil]
      exact ⟨written, blames, fun _ clean => clean⟩
    next =>
      obtain ⟨t₁, ⟨held, b₁⟩, t₂, rfl, holds, rest⟩ := yields_bind_iff.1 run
      obtain ⟨kept, blames, -⟩ := kept_of_hold holds
      cases held with
      | error reason =>
        obtain ⟨rfl, ⟨⟩⟩ := yields_done_iff.1 rest
        rw [List.append_nil]
        exact ⟨kept, blames, nofun⟩
      | ok =>
        obtain ⟨-, whole, blames⟩ := held_of_flush rest
        have flushed := kept_of_flush rest
        refine ⟨?_, blames.append_left t₁, fun ok _ => by rw [whole ok]; exact List.not_mem_nil⟩
        rw [← List.append_nil b₁.held] at flushed
        rw [← List.append_nil (b.held ++ lines)]
        exact kept.trans flushed

/-- What is put comes after what was held.  If the buffer held no line end, it holds none
afterwards, and what it holds fits. -/
theorem kept_of_put {b b' : LineBuffer} {data : Bytes} {r : Except SystemError Unit}
    (run : (b.put data).Yields t (r, b')) :
    Kept (b.held ++ data) t r b'.held ∧ Blames t r ∧
      (r = .ok () → 10 ∉ b.held → 10 ∉ b'.held ∧ b'.held.length ≤ capacity) := by
  rw [put_eq] at run
  obtain ⟨t₁, ⟨written, b₁⟩, t₂, rfl, lines, rest⟩ := yields_bind_iff.1 run
  obtain ⟨kept, blames, clean⟩ := kept_of_putLines lines
  have data_eq : b.held ++ data = (b.held ++ (cutLines data).1) ++ (cutLines data).2 := by
    rw [List.append_assoc, cutLines_append]
  rw [data_eq]
  cases written with
  | error reason =>
    obtain ⟨rfl, ⟨⟩⟩ := yields_done_iff.1 rest
    rw [List.append_nil]
    exact ⟨kept.fail, blames, nofun⟩
  | ok =>
    obtain ⟨held, blames, fits⟩ := kept_of_hold rest
    refine ⟨kept.trans held, blames.append_left t₁, fun ok before => ⟨?_, fits ok⟩⟩
    -- What is held at the end is the last part of what was held and of the tail.
    subst ok
    have parts := held.eq_of_ok
    intro listed
    have : 10 ∈ b₁.held ++ (cutLines data).2 := by
      rw [parts]
      exact List.mem_append_right _ listed
    rcases List.mem_append.1 this with listed | listed
    · exact clean rfl before listed
    · exact not_mem_cutLines data listed

/-! ### What the buffer asks for -/

section Only

variable {P : Call → Prop} (ofWrite : ∀ data, P (.write standardOutput data))
include ofWrite

theorem attempt_only (data : Bytes) : (attempt data).Only P := by
  unfold attempt
  split
  · exact trivial
  · refine (writeStream_only ofWrite _).bind fun r => ?_
    split
    · exact trivial
    · exact trivial
    · split <;> exact trivial

theorem writeAll_only (data : Bytes) : (Transfer.writeAll writeOut data).Only P :=
  ⟨fun data => attempt_only ofWrite data, fun _ => trivial⟩

theorem flush_only (b : LineBuffer) : b.flush.Only P := by
  rw [flush_eq]
  exact ⟨fun held => (attempt_only ofWrite held).bind fun _ => trivial, fun _ => trivial⟩

theorem hold_only (b : LineBuffer) (data : Bytes) : (b.hold data).Only P := by
  rw [hold_eq, makeRoom]
  split
  · exact trivial
  · refine Only.bind ?_ fun made => ?_
    · split
      · exact flush_only ofWrite b
      · exact trivial
    · split
      · exact trivial
      · split
        · exact (writeAll_only ofWrite data).bind fun _ => trivial
        · exact trivial

theorem putLines_only (b : LineBuffer) (lines : Bytes) : (b.putLines lines).Only P := by
  rw [putLines]
  split
  · split
    · exact flush_only ofWrite b
    · exact trivial
  · split
    · exact (writeAll_only ofWrite lines).bind fun _ => trivial
    · refine (hold_only ofWrite b lines).bind fun held => ?_
      split
      · exact flush_only ofWrite _
      · exact trivial

/-- Output goes nowhere but to the standard output. -/
theorem put_only (b : LineBuffer) (data : Bytes) : (b.put data).Only P := by
  rw [put_eq]
  refine (putLines_only ofWrite b _).bind fun written => ?_
  split
  · exact trivial
  · exact hold_only ofWrite _ _

end Only

end LineBuffer

end FrontEnd

end Coprocess
