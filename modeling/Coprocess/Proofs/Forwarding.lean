import Coprocess.Proofs.HeldOutput

/-!
# Forwarded input

What the thread that forwards the standard input does with the bytes it reads: it hands them over to
the descriptor of the coprocess in the order in which they came, whatever the pieces in which they
are read and taken (`carried_of_copy`), and for a terminal it adds one character at the end
(`carried_of_forward`).  Unless something fails, and that is told, all of them are taken.
-/

namespace Coprocess

open Host Program

variable {t t₁ t₂ : List Exchange} {fd : Fd}

/-! ### What a descriptor takes -/

/-- The bytes that an exchange hands over to a descriptor. -/
def Host.Exchange.taken (fd : Fd) : Exchange → Bytes
  | .reply (.write target data) (.ok n) => if target = fd then data.take n else []
  | _ => []

/-- The bytes that the exchanges of a trace hand over to a descriptor. -/
def taken (fd : Fd) (t : List Exchange) : Bytes := t.flatMap (Exchange.taken fd)

@[simp] theorem taken_nil (fd : Fd) : taken fd [] = [] := rfl

@[simp] theorem taken_append (fd : Fd) (t₁ t₂ : List Exchange) :
    taken fd (t₁ ++ t₂) = taken fd t₁ ++ taken fd t₂ := List.flatMap_append

/-- Of the bytes given, the descriptor takes a first part, and all if nothing fails. -/
def Carried (fd : Fd) (given : Bytes) (t : List Exchange) (r : Except SystemError Unit) : Prop :=
  ∃ lost, given = taken fd t ++ lost ∧ (r = .ok () → lost = [])

theorem Carried.eq_of_ok {given : Bytes} (carried : Carried fd given t (.ok ())) :
    given = taken fd t := by
  obtain ⟨lost, rfl, whole⟩ := carried
  rw [whole rfl, List.append_nil]

/-- After an operation that succeeds, the next carries on. -/
theorem Carried.trans {given later : Bytes} {r : Except SystemError Unit}
    (first : Carried fd given t₁ (.ok ())) (second : Carried fd later t₂ r) :
    Carried fd (given ++ later) (t₁ ++ t₂) r := by
  obtain ⟨lost, rfl, whole⟩ := second
  exact ⟨lost, by rw [first.eq_of_ok, taken_append, List.append_assoc], whole⟩

/-- Of what is given after that, nothing is taken by an operation that has failed. -/
theorem Carried.fail {given later : Bytes} {reason : SystemError}
    (carried : Carried fd given t (.error reason)) :
    Carried fd (given ++ later) t (.error reason) := by
  obtain ⟨lost, rfl, -⟩ := carried
  exact ⟨lost ++ later, by rw [List.append_assoc], nofun⟩

namespace Transfer

/-! ### Writing -/

/-- A write hands over a first part of what it is given, or it fails. -/
theorem taken_of_writeFd {data : Bytes} {r : Except SystemError Nat}
    (run : (writeFd fd data).Yields t r) :
    received t = [] ∧
      ((∃ n, r = .ok n ∧ taken fd t = data.take n) ∨
        ∃ reason, r = .error reason ∧ taken fd t = []) := by
  obtain ⟨answer, t, rfl, rest⟩ := yields_call_iff.1 run
  obtain ⟨rfl, rfl⟩ := yields_done_iff.1 rest
  cases answer with
  | ok n => exact ⟨rfl, .inl ⟨n, rfl, by simp [taken, Exchange.taken]⟩⟩
  | error reason => exact ⟨rfl, .inr ⟨_, rfl, rfl⟩⟩

/-- What comes of one attempt. -/
theorem taken_of_writeRound {data : Bytes} {next : Bytes ⊕ Except SystemError Unit}
    (run : (writeRound (writeFd fd) data).Yields t next) :
    received t = [] ∧
      ((∃ rest, next = .inl rest ∧ data = taken fd t ++ rest) ∨
        ∃ r, next = .inr r ∧ taken fd t = [] ∧ (r = .ok () → data = [])) := by
  unfold writeRound at run
  split at run
  · obtain ⟨rfl, rfl⟩ := yields_done_iff.1 run
    exact ⟨rfl, .inr ⟨_, rfl, rfl, fun _ => rfl⟩⟩
  · obtain ⟨t₁, answer, t₂, rfl, writes, rest⟩ := yields_bind_iff.1 run
    obtain ⟨none, ⟨_ | n, rfl, took⟩ | ⟨reason, rfl, took⟩⟩ := taken_of_writeFd writes
    · obtain ⟨rfl, rfl⟩ := yields_done_iff.1 rest
      rw [List.append_nil]
      exact ⟨none, .inr ⟨_, rfl, by simpa using took, nofun⟩⟩
    · obtain ⟨rfl, rfl⟩ := yields_done_iff.1 rest
      rw [List.append_nil]
      exact ⟨none, .inl ⟨_, rfl, by rw [took, List.take_append_drop]⟩⟩
    · dsimp only at rest
      split at rest
      · obtain ⟨rfl, rfl⟩ := yields_done_iff.1 rest
        rw [List.append_nil]
        exact ⟨none, .inl ⟨_, rfl, by rw [took, List.nil_append]⟩⟩
      · obtain ⟨rfl, rfl⟩ := yields_done_iff.1 rest
        rw [List.append_nil]
        exact ⟨none, .inr ⟨_, rfl, took, nofun⟩⟩

/-- **Writing all** of some data hands over a first part of it, and all of it if that succeeds. -/
theorem carried_of_writeAll {data : Bytes} {r : Except SystemError Unit}
    (run : (writeAll (writeFd fd) data).Yields t r) : received t = [] ∧ Carried fd data t r := by
  rw [writeAll_eq_iterate] at run
  refine run.iterate_induction (P := fun data t r => received t = [] ∧ Carried fd data t r) ?_ ?_
  · intro data t r round
    obtain ⟨none, ⟨_, ⟨⟩, -⟩ | ⟨r, ⟨⟩, took, whole⟩⟩ := taken_of_writeRound round
    exact ⟨none, data, by rw [took, List.nil_append], whole⟩
  · rintro data rest t₁ t₂ r round ⟨none₂, lost, rfl, whole⟩
    obtain ⟨none₁, ⟨_, ⟨⟩, rfl⟩ | ⟨_, ⟨⟩, -⟩⟩ := taken_of_writeRound round
    exact ⟨by simp [none₁, none₂], lost, by rw [taken_append, List.append_assoc], whole⟩

end Transfer

namespace FrontEnd

/-! ### Copying the input -/

theorem received_of_readInput (fd : Fd) {count : Nat} {r : Except SystemError Bytes}
    (run : (readInput count).Yields t r) :
    taken fd t = [] ∧
      ((∃ data, r = .ok data ∧ received t = data) ∨
        ∃ reason, r = .error reason ∧ received t = []) := by
  obtain ⟨answer, t, rfl, rest⟩ := yields_call_iff.1 run
  cases answer with
  | ok data =>
    obtain ⟨rfl, rfl⟩ := yields_done_iff.1 rest
    exact ⟨rfl, .inl ⟨data, rfl, by simp [received, Exchange.received]⟩⟩
  | error reason =>
    simp only [done_bind, pure_eq, Except.mapError] at rest
    split at rest
    · -- A standard input that is closed is at its end.
      obtain ⟨rfl, rfl⟩ := yields_done_iff.1 rest
      exact ⟨rfl, .inl ⟨[], rfl, rfl⟩⟩
    · obtain ⟨rfl, rfl⟩ := yields_done_iff.1 rest
      exact ⟨rfl, .inr ⟨_, rfl, rfl⟩⟩

/-- Handing on a piece of the input. -/
def handOn (input : Fd) (_ : Unit) (data : Bytes) : Program (Except SystemError Unit × Unit) := do
  return (← Transfer.writeAll (Transfer.writeFd input) data, ())

theorem carried_of_handOn {data : Bytes} {u u' : Unit} {r : Except SystemError Unit}
    (run : (handOn fd u data).Yields t (r, u')) : received t = [] ∧ Carried fd data t r := by
  obtain ⟨t, r, _, rfl, writes, last⟩ := yields_bind_iff.1 run
  obtain ⟨rfl, ⟨⟩⟩ := yields_done_iff.1 last
  rw [List.append_nil]
  exact Transfer.carried_of_writeAll writes

/-- What a round hands on of what it reads, whether it is the last or not. -/
theorem carried_of_copyRound {next : Unit ⊕ (Except SystemError Unit × Unit)}
    (run : (Transfer.copyRound readInput (handOn fd) ()).Yields t next) :
    ∃ r, Carried fd (received t) t r ∧ (next = .inl () ∧ r = .ok () ∨ next = .inr (r, ())) := by
  obtain ⟨t₁, answer, t₂, rfl, reads, rest⟩ := yields_bind_iff.1 run
  obtain ⟨none, ⟨data, rfl, brought⟩ | ⟨reason, rfl, nothing⟩⟩ := received_of_readInput fd reads
  · cases data with
    | nil =>
      obtain ⟨rfl, rfl⟩ := yields_done_iff.1 rest
      exact ⟨.ok (), ⟨[], by simp [none, brought], fun _ => rfl⟩, .inr rfl⟩
    | cons first others =>
      obtain ⟨t₂, ⟨r, _⟩, t₃, rfl, hands, last⟩ := yields_bind_iff.1 rest
      obtain ⟨silent, lost, given, whole⟩ := carried_of_handOn hands
      have carried : Carried fd (received (t₁ ++ (t₂ ++ []))) (t₁ ++ (t₂ ++ [])) r :=
        ⟨lost, by simpa [none, brought, silent] using given, whole⟩
      cases r with
      | ok =>
        obtain ⟨rfl, rfl⟩ := yields_done_iff.1 last
        exact ⟨_, carried, .inl ⟨rfl, rfl⟩⟩
      | error reason =>
        obtain ⟨rfl, rfl⟩ := yields_done_iff.1 last
        exact ⟨_, carried, .inr rfl⟩
  · have idle (r : Except SystemError Unit) : Carried fd (received (t₁ ++ [])) (t₁ ++ []) r :=
      ⟨[], by simp [none, nothing], fun _ => rfl⟩
    dsimp only at rest
    split at rest
    · obtain ⟨rfl, rfl⟩ := yields_done_iff.1 rest
      exact ⟨_, idle _, .inl ⟨rfl, rfl⟩⟩
    · obtain ⟨rfl, rfl⟩ := yields_done_iff.1 rest
      exact ⟨_, idle _, .inr rfl⟩

/-- **Copying the input** hands on what it reads, in the order in which it came. -/
theorem carried_of_copy {r : Except SystemError Unit}
    (run : (Transfer.copy readInput (handOn fd) ()).Yields t (r, ())) :
    Carried fd (received t) t r := by
  rw [Transfer.copy_eq_iterate] at run
  refine run.iterate_induction (P := fun _ t result => Carried fd (received t) t result.1) ?_ ?_
  · intro _ t result round
    obtain ⟨r, carried, ⟨⟨⟩, -⟩ | ⟨⟨⟩⟩⟩ := carried_of_copyRound round
    exact carried
  · intro _ _ t₁ t₂ result round onward
    obtain ⟨r, carried, ⟨-, rfl⟩ | ⟨⟨⟩⟩⟩ := carried_of_copyRound round
    rw [received_append]
    exact carried.trans onward

/-! ### Forwarding -/

/-- It is told that forwarding ended before its time. -/
def ToldOfEnd (t : List Exchange) : Prop :=
  ∃ reason, .reply (.log (.inputForwardingEnded reason)) () ∈ t

/-- What is typed at the end of the input on a terminal. -/
def finalCharacters (onTerminal : Bool) : Bytes := if onTerminal then [endOfTransmission] else []

/-- What is written after the input was copied. -/
def conclude (input : Fd) (onTerminal : Bool) (copied : Except SystemError Unit) :
    Program (Except SystemError Unit) :=
  match copied with
  | .ok () =>
    if onTerminal then Transfer.writeAll (Transfer.writeFd input) [endOfTransmission]
    else .done (.ok ())
  | .error reason => .done (.error reason)

/-- What is done when nothing more is written. -/
def leave (input : Fd) (ended : Except SystemError Unit) : Program Unit :=
  match ended with
  | .ok () => (request (.close input)).bind fun _ => .done ()
  | .error reason => (tell (.inputForwardingEnded reason.message)).bind fun _ =>
      (request (.close input)).bind fun _ => .done ()

theorem forward_eq (input : Fd) (onTerminal : Bool) :
    forward input onTerminal = (Transfer.copy readInput (handOn input) ()).bind fun (copied, _) =>
      (conclude input onTerminal copied).bind (leave input) := by
  unfold forward
  refine congrArg (Program.bind _) (funext fun ⟨copied, _⟩ => ?_)
  rcases copied with reason | _
  · rfl
  · cases onTerminal
    · rfl
    · refine congrArg (Program.bind _) (funext fun ended => ?_)
      cases ended <;> rfl

theorem carried_of_conclude {onTerminal : Bool} {copied r : Except SystemError Unit}
    (run : (conclude fd onTerminal copied).Yields t r) :
    received t = [] ∧ (copied = .ok () → Carried fd (finalCharacters onTerminal) t r) ∧
      ∀ reason, copied = .error reason → t = [] ∧ r = .error reason := by
  rcases copied with reason | _
  · obtain ⟨rfl, rfl⟩ := yields_done_iff.1 run
    exact ⟨rfl, nofun, fun _ same => ⟨rfl, same⟩⟩
  · cases onTerminal with
    | false =>
      obtain ⟨rfl, rfl⟩ := yields_done_iff.1 run
      exact ⟨rfl, fun _ => ⟨[], rfl, fun _ => rfl⟩, nofun⟩
    | true =>
      change (Transfer.writeAll (Transfer.writeFd fd) [endOfTransmission]).Yields t r at run
      obtain ⟨none, carried⟩ := Transfer.carried_of_writeAll run
      exact ⟨none, fun _ => carried, nofun⟩

theorem told_of_leave {r : Except SystemError Unit} {u : Unit} (run : (leave fd r).Yields t u) :
    received t = [] ∧ taken fd t = [] ∧ (ToldOfEnd t ∨ r = .ok ()) := by
  cases r with
  | ok =>
    obtain ⟨_, _, rfl, rest⟩ := yields_call_iff.1 run
    obtain ⟨rfl, -⟩ := yields_done_iff.1 rest
    exact ⟨rfl, rfl, .inr rfl⟩
  | error reason =>
    obtain ⟨_, _, rfl, closes⟩ := yields_call_iff.1 run
    obtain ⟨_, _, rfl, last⟩ := yields_call_iff.1 closes
    obtain ⟨rfl, -⟩ := yields_done_iff.1 last
    exact ⟨rfl, rfl, .inl ⟨_, List.mem_cons_self⟩⟩

/-- **Forwarding** hands over the standard input and what ends it on a terminal, in this order; if
not all of it is taken, that is told. -/
theorem carried_of_forward {onTerminal : Bool} {u : Unit}
    (run : (forward fd onTerminal).Yields t u) :
    ∃ lost, received t ++ finalCharacters onTerminal = taken fd t ++ lost ∧
      (¬ ToldOfEnd t → lost = []) := by
  rw [forward_eq] at run
  obtain ⟨t₁, ⟨copied, _⟩, _, rfl, copies, rest⟩ := yields_bind_iff.1 run
  obtain ⟨t₂, r, t₃, rfl, concludes, leaves⟩ := yields_bind_iff.1 rest
  have first := carried_of_copy copies
  obtain ⟨silent₂, carries, fails⟩ := carried_of_conclude concludes
  obtain ⟨silent₃, untouched, told⟩ := told_of_leave leaves
  obtain ⟨lost, given, whole⟩ : Carried fd (received t₁ ++ finalCharacters onTerminal)
      (t₁ ++ t₂) r := by
    rcases copied with reason | _
    · obtain ⟨rfl, rfl⟩ := fails reason rfl
      rw [List.append_nil]
      exact first.fail
    · exact first.trans (carries rfl)
  refine ⟨lost, ?_, fun quiet => whole (told.resolve_left fun ⟨reason, mem⟩ => quiet ⟨reason, ?_⟩)⟩
  · simpa [silent₂, silent₃, untouched] using given
  · exact List.mem_append_right _ (List.mem_append_right _ mem)

theorem yields_readInput (count : Nat) (data : Bytes) :
    (readInput count).Yields [.reply (.read standardInput count) (.ok data)] (.ok data) :=
  .call (c := .read standardInput count) (r := Except.ok data) (.done _)

/-- A descriptor may take all it is given at once. -/
theorem yields_writeAll (fd : Fd) (first : UInt8) (others : Bytes) :
    (Transfer.writeAll (Transfer.writeFd fd) (first :: others)).Yields
      [.reply (.write fd (first :: others)) (.ok (others.length + 1))] (.ok ()) := by
  have writes : (Transfer.writeRound (Transfer.writeFd fd) (first :: others)).Yields
      [.reply (.write fd (first :: others)) (.ok (others.length + 1))]
      (.inl ((first :: others).drop (others.length + 1))) :=
    .call (c := .write fd (first :: others)) (r := Except.ok (others.length + 1)) (.done _)
  rw [List.drop_eq_nil_of_le (by simp)] at writes
  have stops : (Transfer.writeAll (Transfer.writeFd fd) []).Yields ([] ++ []) (.ok ()) :=
    .stop (.done _) (.done _)
  exact .again writes stops

/-- Any input can be forwarded: it may come in one piece, and the descriptor may take all that it is
given. -/
theorem exists_forward (fd : Fd) (b : Bytes) :
    ∃ t, (forward fd true).Yields t () ∧ received t = b ∧ ¬ ToldOfEnd t := by
  have atEnd : (Transfer.copyRound readInput (handOn fd) ()).Yields
      ([.reply (.read standardInput Transfer.chunk) (.ok [])] ++ []) (.inr (.ok (), ())) :=
    (yields_readInput Transfer.chunk []).bind (.done _)
  have copies : ∃ t, (Transfer.copy readInput (handOn fd) ()).Yields t (.ok (), ()) ∧
      received t = b ∧ ¬ ToldOfEnd t := by
    rw [Transfer.copy_eq_iterate]
    cases b with
    | nil => exact ⟨_, .stop atEnd (.done _), rfl, by simp [ToldOfEnd]⟩
    | cons first others =>
      have hands : (handOn fd () (first :: others)).Yields _ (.ok (), ()) :=
        (yields_writeAll fd first others).bind (.done _)
      have round : (Transfer.copyRound readInput (handOn fd) ()).Yields _ (.inl ()) :=
        (yields_readInput Transfer.chunk (first :: others)).bind (hands.bind (.done _))
      exact ⟨_, .again round (.stop atEnd (.done _)), by simp [received, Exchange.received],
        by simp [ToldOfEnd]⟩
  obtain ⟨t, copies, brought, quiet⟩ := copies
  have leaves : (leave fd (.ok ())).Yields [.reply (.close fd) (.ok ())] () :=
    .call (c := .close fd) (r := Except.ok ()) (.done _)
  have runs := copies.bind (f := fun (copied, _) => (conclude fd true copied).bind (leave fd))
    ((yields_writeAll fd endOfTransmission []).bind leaves)
  rw [← forward_eq] at runs
  exact ⟨_, runs, by simpa [received, Exchange.received] using brought,
    by simpa [ToldOfEnd] using quiet⟩

end FrontEnd

end Coprocess
