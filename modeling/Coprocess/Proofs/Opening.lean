import Coprocess.Proofs.Runs
import Coprocess.Transfer

/-!
# Opening files

A file is opened by as many requests as it takes until one is not interrupted
(`Transfer.yields_openFd_iff`).  What holds of a single request to open a file therefore holds of
opening one whenever an interruption has no effect.
-/

namespace Coprocess.Transfer

open Host Program

variable {path : Bytes} {mode : OpenMode} {answer : Except Errno Fd} {t : List Exchange}

/-- The exchanges by which a file is opened: some requests that are interrupted, and the one that is
answered. -/
def opening (path : Bytes) (mode : OpenMode) (answer : Except Errno Fd) : Nat → List Exchange
  | 0 => [.reply (.openFile path mode) answer]
  | interrupted + 1 =>
    .reply (.openFile path mode) (.error .EINTR) :: opening path mode answer interrupted

/-- One attempt. -/
def openRound (path : Bytes) (mode : OpenMode) (_ : Unit) : Program (Unit ⊕ Except Errno Fd) :=
  .call (.openFile path mode) fun answer =>
    .done (if answer = .error .EINTR then .inl () else .inr answer)

theorem openFd_eq_iterate (path : Bytes) (mode : OpenMode) :
    openFd path mode = .iterate () (openRound path mode) := by
  refine congrArg (Program.iterate ()) (funext fun _ => congrArg _ (funext fun answer => ?_))
  cases answer with
  | error reason => by_cases h : reason = .EINTR <;> simp [h]
  | ok fd => simp

theorem yields_openRound_iff {next : Unit ⊕ Except Errno Fd} :
    (openRound path mode ()).Yields t next ↔
      ∃ answer, t = [.reply (.openFile path mode) answer] ∧
        next = if answer = .error .EINTR then .inl () else .inr answer := by
  simp [openRound]

theorem yields_openFd_iff :
    (openFd path mode).Yields t answer ↔
      answer ≠ .error .EINTR ∧ ∃ interrupted, t = opening path mode answer interrupted := by
  rw [openFd_eq_iterate]
  constructor
  · intro run
    refine run.iterate_induction (P := fun _ t answer =>
      answer ≠ .error .EINTR ∧ ∃ interrupted, t = opening path mode answer interrupted) ?_ ?_
    · intro _ t answer round
      obtain ⟨answer', rfl, next⟩ := yields_openRound_iff.1 round
      split at next
      · cases next
      · obtain rfl := Sum.inr.inj next
        exact ⟨‹_›, 0, rfl⟩
    · rintro _ _ t₁ _ answer round ⟨final, n, rfl⟩
      obtain ⟨answer', rfl, next⟩ := yields_openRound_iff.1 round
      split at next
      next interrupted =>
        subst interrupted
        exact ⟨final, n + 1, rfl⟩
      · cases next
  · rintro ⟨final, n, rfl⟩
    induction n with
    | zero =>
      have round : (openRound path mode ()).Yields [.reply (.openFile path mode) answer]
          (.inr answer) := yields_openRound_iff.2 ⟨answer, rfl, (if_neg final).symm⟩
      exact .stop round (.done _)
    | succ n ih =>
      have round : (openRound path mode ()).Yields [.reply (.openFile path mode) (.error .EINTR)]
          (.inl ()) := yields_openRound_iff.2 ⟨_, rfl, (if_pos rfl).symm⟩
      exact .again round ih

/-- Opening a file takes nothing but requests to open it. -/
theorem openFd_only {P : Call → Prop} (ofOpen : P (.openFile path mode)) :
    (openFd path mode).Only P := by
  rw [openFd_eq_iterate]
  exact ⟨fun _ => ⟨ofOpen, fun _ => trivial⟩, fun _ => trivial⟩

end Coprocess.Transfer
