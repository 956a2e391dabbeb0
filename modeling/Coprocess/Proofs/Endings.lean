import Coprocess.FrontEnd
import Coprocess.Proofs.Buffering
import Coprocess.Proofs.Relaying

/-!
# How the process ends

A run that fails leaves a complaint, which goes out with the last words of the process.  That nobody
reads it any more does no harm; but a complaint that cannot be written for another reason makes the
process panic, and the exit code is not that of a complaint then (`Complained`).

Main statements:
* `yields_complain_iff`: a complaint is shown in one of the ways that are listed;
* `exists_complained_of_endRun`: a run that failed ends with a complaint;
* `exists_complain_of_refused`: a stream for diagnostics that takes nothing makes a process that
  complains panic.
-/

namespace Coprocess.FrontEnd

open Host Program

variable {block : List Bytes} {c : Complaint} {code : Nat} {t : List Exchange}

/-- How a complaint can go out, and the exit code that it leads to. -/
inductive Complained (block : List Bytes) (c : Complaint) : List Exchange → Nat → Prop
  | shown {t : List Exchange} : (print standardError (complaintLine block c)).Yields t (.ok ()) →
      Complained block c t complaintCode
  /-- Nobody reads it any more. -/
  | unread {t : List Exchange} :
      (print standardError (complaintLine block c)).Yields t (.error (.os .EPIPE)) →
      Complained block c t complaintCode
  /-- It cannot be written, and the process panics. -/
  | unwritten {reason : SystemError} {t noting : List Exchange} :
      (print standardError (complaintLine block c)).Yields t (.error reason) →
      reason ≠ .os .EPIPE →
      (panicNote ("failed printing to stderr: " ++ reason.message)).Yields noting () →
      Complained block c (t ++ noting) panicCode

theorem complain_eq (block : List Bytes) (c : Complaint) :
    complain block c = (print standardError (complaintLine block c)).bind fun
      | .ok () => .done complaintCode
      | .error reason =>
        if reason = .os .EPIPE then .done complaintCode
        else (panicNote ("failed printing to stderr: " ++ reason.message)).bind fun _ =>
          .done panicCode := by
  refine congrArg (Program.bind _) (funext fun shown => ?_)
  cases shown with
  | ok => rfl
  | error reason => by_cases gone : reason = .os .EPIPE <;> simp [gone]

theorem yields_complain_iff : (complain block c).Yields t code ↔ Complained block c t code := by
  rw [complain_eq]
  constructor
  · intro run
    obtain ⟨showing, shown, t₁, rfl, prints, rest⟩ := yields_bind_iff.1 run
    cases shown with
    | ok =>
      obtain ⟨rfl, rfl⟩ := yields_done_iff.1 rest
      rw [List.append_nil]
      exact .shown prints
    | error reason =>
      dsimp only at rest
      split at rest
      next gone =>
        obtain ⟨rfl, rfl⟩ := yields_done_iff.1 rest
        rw [List.append_nil]
        exact .unread (gone ▸ prints)
      next other =>
        obtain ⟨noting, _, _, rfl, notes, last⟩ := yields_bind_iff.1 rest
        obtain ⟨rfl, rfl⟩ := yields_done_iff.1 last
        rw [List.append_nil]
        exact .unwritten prints other notes
  · rintro (prints | prints | ⟨prints, other, notes⟩)
    · rw [← List.append_nil t]
      exact prints.bind (.done _)
    · rw [← List.append_nil t]
      refine prints.bind ?_
      dsimp only
      rw [if_pos rfl]
      exact .done _
    · have last := notes.bind (f := fun _ => .done panicCode) (.done _)
      rw [List.append_nil] at last
      refine prints.bind ?_
      dsimp only
      rw [if_neg other]
      exact last

/-! ### After the run -/

/-- A run that failed ends with its complaint, and before that with its log. -/
theorem exists_complained_of_endRun {log : Logging}
    (run : (endRun block log (some (.error c))).Yields t code) :
    ∃ showing, Complained block c showing code ∧ showing <:+ t := by
  obtain ⟨t₁, _, showing, rfl, -, shows⟩ := yields_bind_iff.1 run
  exact ⟨showing, yields_complain_iff.1 shows, List.suffix_append t₁ showing⟩

/-- One that has an exit code ends with that. -/
theorem eq_of_endRun_ok {log : Logging} {exitCode : Int}
    (run : (endRun block log (some (.ok exitCode))).Yields t code) :
    code = visibleCode exitCode := by
  obtain ⟨_, _, _, -, -, last⟩ := yields_bind_iff.1 run
  exact (yields_done_iff.1 last).2

/-- One that panicked ends with the code of a panic. -/
theorem eq_of_endRun_none {log : Logging} (run : (endRun block log none).Yields t code) :
    code = panicCode :=
  (yields_done_iff.1 run).2

/-! ### Diagnostics that nobody takes -/

/-- What passes when a text is refused. -/
def refusal (text : String) (reason : Errno) : List Exchange :=
  [.reply (.write standardError (Bytes.ofText text)) (.error reason)]

/-- The reason is one for which writing is given up: it is not tried again, and the stream is not
closed. -/
def GivesUp (reason : Errno) : Prop := reason ≠ .EINTR ∧ reason ≠ .EBADF

instance (reason : Errno) : Decidable (GivesUp reason) := inferInstanceAs (Decidable (_ ∧ _))

theorem yields_print_of_refused {text : String} {reason : Errno} (givesUp : GivesUp reason)
    (nonempty : Bytes.ofText text ≠ []) :
    (print standardError text).Yields (refusal text reason) (.error (.os reason)) := by
  obtain ⟨first, others, bytes⟩ := List.exists_cons_of_ne_nil nonempty
  have writes : (writeStream standardError (first :: others)).Yields
      [.reply (.write standardError (first :: others)) (.error reason)] (.error (.os reason)) := by
    rw [writeStream_eq]
    refine .call ?_
    dsimp only
    rw [if_neg givesUp.2]
    exact .done _
  have round : (Transfer.writeRound (writeStream standardError) (first :: others)).Yields
      ([.reply (.write standardError (first :: others)) (.error reason)] ++ [])
      (.inr (.error (.os reason))) := by
    refine writes.bind ?_
    dsimp only
    rw [if_neg (by simpa using givesUp.1)]
    exact .done _
  rw [print, refusal, bytes, Transfer.writeAll_eq_iterate]
  exact .stop round (.done _)

/-- The note about a panic may be refused as well, and nothing comes of that. -/
theorem exists_panicNote_of_refused {reason : Errno} (givesUp : GivesUp reason) (why : String) :
    ∃ t, (panicNote why).Yields t () := by
  have nonempty : Bytes.ofText ("thread 'main' panicked:\n" ++ why ++ "\n") ≠ [] := by
    simp [Bytes.ofText, Bytes.ofChars]
  exact ⟨_, (yields_print_of_refused givesUp nonempty).bind (.done ())⟩

/-- **A complaint that is refused** ends the process with the code of a panic. -/
theorem exists_complain_of_refused {reason : Errno} (givesUp : GivesUp reason)
    (present : reason ≠ .EPIPE) (block : List Bytes) (c : Complaint) :
    ∃ t, (complain block c).Yields t panicCode := by
  have nonempty : Bytes.ofText (complaintLine block c) ≠ [] := by
    rw [complaintLine]
    split <;> simp [Bytes.ofText, Bytes.ofChars]
  obtain ⟨noting, notes⟩ := exists_panicNote_of_refused givesUp
    ("failed printing to stderr: " ++ (SystemError.os reason).message)
  exact ⟨_, yields_complain_iff.2 (.unwritten (yields_print_of_refused givesUp nonempty)
    (by simpa using present) notes)⟩

section Only

variable {P : Call → Prop} (ofWrite : ∀ data, P (.write standardError data))
include ofWrite

theorem complain_only (block : List Bytes) (c : Complaint) : (complain block c).Only P := by
  rw [complain_eq]
  refine (Transfer.writeAll_only (writeStream_only ofWrite) _).bind fun shown => ?_
  cases shown with
  | ok => exact trivial
  | error reason =>
    show Only _ (if _ then _ else _)
    split
    · exact trivial
    · exact (panicNote_only ofWrite _).bind fun _ => trivial

/-- What comes after a run takes nothing but requests to write and to close. -/
theorem endRun_only (ofClose : ∀ fd, P (.close fd)) (block : List Bytes) (log : Logging)
    (result : Option (Except Complaint Int)) : (endRun block log result).Only P := by
  have shutDown : log.shutDown.Only P := by
    rw [Logging.shutDown]
    split
    · exact trivial
    · exact ⟨ofClose _, fun _ => trivial⟩
  rcases result with _ | c | code
  · exact trivial
  · exact shutDown.bind fun _ => complain_only ofWrite block c
  · exact shutDown.bind fun _ => trivial

end Only

end Coprocess.FrontEnd
