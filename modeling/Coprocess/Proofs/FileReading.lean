import Coprocess.Bytes.Lemmas
import Coprocess.FileAccess
import Coprocess.Proofs.HeldOutput
import Coprocess.Proofs.Opening

/-!
# Reading files

A file is read as text by opening it, reading it to its end and closing it again.  The text that is
had is made of the bytes that came in, whatever the pieces (`FileAccess.received_of_readText`).
There are four ways in which it cannot be had (`FileAccess.Unread`), and a missing file is one case
of one of them.
-/

namespace Coprocess

open Host Program

variable {t : List Exchange}

/-! ### Reading to the end -/

namespace Transfer

/-- One round of reading. -/
def readRound (read : Nat → Program (Except SystemError Bytes)) (chunks : List Bytes) :
    Program (List Bytes ⊕ Except SystemError Bytes) :=
  (read chunk).bind fun
    | .ok [] => .done (.inr (.ok chunks.reverse.flatten))
    | .ok data => .done (.inl (data :: chunks))
    | .error reason =>
      if reason == .os .EINTR then .done (.inl chunks) else .done (.inr (.error reason))

theorem readAll_eq_iterate (read : Nat → Program (Except SystemError Bytes)) :
    readAll read = .iterate [] (readRound read) := by
  refine congrArg (Program.iterate []) (funext fun chunks => congrArg _ (funext fun r => ?_))
  rcases r with reason | _ | ⟨first, others⟩ <;> rfl

/-- What a round brings in is the next piece, unless it is the last. -/
theorem received_of_readRound {fd : Fd} {chunks : List Bytes}
    {next : List Bytes ⊕ Except SystemError Bytes}
    (run : (readRound (readFd fd) chunks).Yields t next) :
    (∃ later, next = .inl later ∧ later.reverse.flatten = chunks.reverse.flatten ++ received t) ∨
    (∃ content, next = .inr (.ok content) ∧ content = chunks.reverse.flatten ++ received t) ∨
    ∃ reason, next = .inr (.error reason) := by
  obtain ⟨t₁, answer, t₂, rfl, reads, rest⟩ := yields_bind_iff.1 run
  obtain ⟨reply, t₃, rfl, last⟩ := yields_call_iff.1 reads
  obtain ⟨rfl, rfl⟩ := yields_done_iff.1 last
  rcases reply with reason | _ | ⟨first, others⟩
  · dsimp only [Except.mapError] at rest
    split at rest
    · obtain ⟨rfl, rfl⟩ := yields_done_iff.1 rest
      exact .inl ⟨chunks, rfl, by simp [received, Exchange.received]⟩
    · obtain ⟨rfl, rfl⟩ := yields_done_iff.1 rest
      exact .inr (.inr ⟨_, rfl⟩)
  · obtain ⟨rfl, rfl⟩ := yields_done_iff.1 rest
    exact .inr (.inl ⟨_, rfl, by simp [received, Exchange.received]⟩)
  · obtain ⟨rfl, rfl⟩ := yields_done_iff.1 rest
    exact .inl ⟨_, rfl, by simp [received, Exchange.received]⟩

/-- What is read to the end of a stream are the bytes that come in, whatever the pieces. -/
theorem received_of_readAll {fd : Fd} {content : Bytes}
    (run : (readAll (readFd fd)).Yields t (.ok content)) : content = received t := by
  rw [readAll_eq_iterate] at run
  -- The invariant is about the rounds that are left: the content is what was gathered before them
  -- and what comes in during them.
  have gathered := run.iterate_induction
    (P := fun chunks t r => ∀ content, r = .ok content →
      content = chunks.reverse.flatten ++ received t) ?_ ?_ content rfl
  · simpa using gathered
  · rintro chunks t r round content rfl
    obtain ⟨_, ⟨⟩, -⟩ | ⟨_, ⟨⟩, whole⟩ | ⟨_, ⟨⟩⟩ := received_of_readRound round
    exact whole
  · intro chunks later t₁ t₂ r round ih content ok
    obtain ⟨_, ⟨⟩, piece⟩ | ⟨_, ⟨⟩, -⟩ | ⟨_, ⟨⟩⟩ := received_of_readRound round
    rw [ih content ok, piece, received_append, List.append_assoc]

end Transfer

/-! ### Files -/

/-- Opening a file brings nothing in. -/
@[simp] theorem Transfer.received_opening (path : Bytes) (mode : OpenMode)
    (answer : Except Errno Fd) (interrupted : Nat) :
    received (opening path mode answer interrupted) = [] := by
  induction interrupted with
  | zero => rfl
  | succ n ih => exact ih

namespace FileAccess

/-- How a file is opened to be read. -/
def readMode : OpenMode := { read := true, cloexec := true }

/-- The exchanges by which a file is read under a number: it is opened, read and closed again. -/
def readUnder (path : Bytes) (fd : Fd) (interrupted : Nat) (t : List Exchange)
    (closed : Except Errno Unit) : List Exchange :=
  Transfer.opening path readMode (.ok fd) interrupted ++ (t ++ [.reply (.close fd) closed])

/-- The text of the file at a path cannot be had, and why. -/
inductive Unread (path : Bytes) : List Exchange → SystemError → Prop
  /-- The path holds a zero byte. -/
  | unnamed : Bytes.hasNul path = true → Unread path [] .nulInPath
  /-- The file is not opened; that there is none is one of the reasons. -/
  | unopened {reason : Errno} {interrupted : Nat} : Bytes.hasNul path = false → reason ≠ .EINTR →
      Unread path (Transfer.opening path readMode (.error reason) interrupted) (.os reason)
  /-- Reading breaks off. -/
  | broken {fd : Fd} {interrupted : Nat} {t : List Exchange} {closed : Except Errno Unit}
      {reason : SystemError} :
      Bytes.hasNul path = false → (Transfer.readAll (Transfer.readFd fd)).Yields t (.error reason) →
      Unread path (readUnder path fd interrupted t closed) reason
  /-- The file is read to its end and holds no text. -/
  | notText {fd : Fd} {interrupted : Nat} {t : List Exchange} {closed : Except Errno Unit}
      {content : Bytes} :
      Bytes.hasNul path = false → (Transfer.readAll (Transfer.readFd fd)).Yields t (.ok content) →
      content.text? = none → Unread path (readUnder path fd interrupted t closed) .notText

theorem openFile_eq (path : Bytes) (mode : OpenMode) :
    openFile path mode =
      if Bytes.hasNul path then .done (.error .nulInPath)
      else (Transfer.openFd path { mode with cloexec := true }).bind fun answer =>
        .done (answer.mapError .os) :=
  rfl

/-- A path that holds a zero byte is refused, and any other is answered by the host. -/
theorem yields_openFile_iff {path : Bytes} {mode : OpenMode} {r : Except SystemError Fd} :
    (openFile path mode).Yields t r ↔
      Bytes.hasNul path = true ∧ t = [] ∧ r = .error .nulInPath ∨
      Bytes.hasNul path = false ∧ ∃ answer interrupted, answer ≠ .error .EINTR ∧
        t = Transfer.opening path { mode with cloexec := true } answer interrupted ∧
        r = answer.mapError .os := by
  rw [openFile_eq]
  cases hasNul : Bytes.hasNul path with
  | true => simp
  | false =>
    simp only [Bool.false_eq_true, if_false, false_and, true_and, false_or]
    constructor
    · intro run
      obtain ⟨t₁, answer, t₂, rfl, opens, last⟩ := yields_bind_iff.1 run
      obtain ⟨final, interrupted, rfl⟩ := Transfer.yields_openFd_iff.1 opens
      obtain ⟨rfl, rfl⟩ := yields_done_iff.1 last
      exact ⟨answer, interrupted, final, List.append_nil _, rfl⟩
    · rintro ⟨answer, interrupted, final, rfl, rfl⟩
      rw [← List.append_nil (Transfer.opening _ _ _ _)]
      exact (Transfer.yields_openFd_iff.2 ⟨final, interrupted, rfl⟩).bind (.done _)

/-- Once a file is open it is closed again, whatever comes of reading it. -/
theorem read_eq (path : Bytes) :
    read path = (openFile path { read := true }).bind fun
      | .error reason => .done (.error reason)
      | .ok fd => (Transfer.readAll (Transfer.readFd fd)).bind fun content =>
          (request (.close fd)).bind fun _ => .done content := by
  refine congrArg (Program.bind _) (funext fun r => ?_)
  cases r <;> rfl

theorem yields_read_iff {path : Bytes} {r : Except SystemError Bytes} :
    (read path).Yields t r ↔
      Bytes.hasNul path = true ∧ t = [] ∧ r = .error .nulInPath ∨
      Bytes.hasNul path = false ∧
        ((∃ reason interrupted, reason ≠ .EINTR ∧
          t = Transfer.opening path readMode (.error reason) interrupted ∧
          r = .error (.os reason)) ∨
        ∃ fd interrupted t' closed, t = readUnder path fd interrupted t' closed ∧
          (Transfer.readAll (Transfer.readFd fd)).Yields t' r) := by
  rw [read_eq]
  constructor
  · intro run
    obtain ⟨t₁, opened, t₂, rfl, opens, rest⟩ := yields_bind_iff.1 run
    rcases yields_openFile_iff.1 opens with
      ⟨hasNul, rfl, rfl⟩ | ⟨noNul, reason | fd, interrupted, final, rfl, rfl⟩
    · obtain ⟨rfl, rfl⟩ := yields_done_iff.1 rest
      exact .inl ⟨hasNul, rfl, rfl⟩
    · obtain ⟨rfl, rfl⟩ := yields_done_iff.1 rest
      rw [List.append_nil]
      exact .inr ⟨noNul, .inl ⟨reason, interrupted, fun same => final (same ▸ rfl), rfl, rfl⟩⟩
    · obtain ⟨t₃, content, t₄, rfl, reads, rest⟩ := yields_bind_iff.1 rest
      obtain ⟨closed, t₅, rfl, last⟩ := yields_call_iff.1 rest
      obtain ⟨rfl, rfl⟩ := yields_done_iff.1 last
      exact .inr ⟨noNul, .inr ⟨fd, interrupted, t₃, closed, rfl, reads⟩⟩
  · rintro (⟨hasNul, rfl, rfl⟩ | ⟨noNul, ⟨reason, interrupted, final, rfl, rfl⟩ |
      ⟨fd, interrupted, t', closed, rfl, reads⟩⟩)
    · have opens : (openFile path { read := true }).Yields [] (.error .nulInPath) :=
        yields_openFile_iff.2 (.inl ⟨hasNul, rfl, rfl⟩)
      exact opens.bind (.done _)
    · have opens : (openFile path { read := true }).Yields _ (.error (.os reason)) :=
        yields_openFile_iff.2 (.inr ⟨noNul, .error reason, interrupted, by simpa using final, rfl,
          rfl⟩)
      rw [← List.append_nil (Transfer.opening _ _ _ _)]
      exact opens.bind (.done _)
    · have opens : (openFile path { read := true }).Yields _ (.ok fd) :=
        yields_openFile_iff.2 (.inr ⟨noNul, .ok fd, interrupted, nofun, rfl, rfl⟩)
      exact opens.bind (reads.bind (.call (.done _)))

/-- The text of what was read. -/
def asText (content : Except SystemError Bytes) : Except SystemError String :=
  content.bind fun bytes =>
    match bytes.text? with
    | some text => .ok text
    | none => .error .notText

theorem asText_ok_eq_ok_iff {bytes : Bytes} {text : String} :
    asText (.ok bytes) = .ok text ↔ bytes.text? = some text := by
  cases h : bytes.text? <;> simp [asText, Except.bind, h]

theorem asText_ok_eq_error_iff {bytes : Bytes} {reason : SystemError} :
    asText (.ok bytes) = .error reason ↔ bytes.text? = none ∧ reason = .notText := by
  cases h : bytes.text? <;> simp [asText, Except.bind, h, eq_comm]

theorem yields_readText_iff {path : Bytes} {r : Except SystemError String} :
    (readText path).Yields t r ↔ ∃ content, (read path).Yields t content ∧ r = asText content := by
  have whole : readText path = (read path).bind fun content => .done (asText content) := by
    refine congrArg (Program.bind _) (funext fun content => ?_)
    cases content with
    | error reason => rfl
    | ok bytes => cases h : bytes.text? <;> simp [asText, Except.bind, h]
  rw [whole, yields_bind_iff]
  constructor
  · rintro ⟨t₁, content, t₂, rfl, reads, last⟩
    obtain ⟨rfl, rfl⟩ := yields_done_iff.1 last
    rw [List.append_nil]
    exact ⟨content, reads, rfl⟩
  · rintro ⟨content, reads, rfl⟩
    exact ⟨t, content, [], (List.append_nil t).symm, reads, .done _⟩

/-- A text is had by reading a file to its end, and what comes in are its bytes. -/
theorem received_of_readText {path : Bytes} {text : String}
    (run : (readText path).Yields t (.ok text)) : received t = Bytes.ofText text := by
  obtain ⟨content, reads, had⟩ := yields_readText_iff.1 run
  cases content with
  | error reason => cases had
  | ok bytes =>
    have isText := asText_ok_eq_ok_iff.1 had.symm
    obtain ⟨-, -, ⟨⟩⟩ | ⟨-, ⟨_, _, -, -, ⟨⟩⟩ | ⟨fd, interrupted, t', closed, rfl, whole⟩⟩ :=
      yields_read_iff.1 reads
    rw [← Bytes.eq_ofText_of_text? isText, Transfer.received_of_readAll whole]
    have closing : received [.reply (.close fd) closed] = [] := rfl
    simp [readUnder, closing]

theorem yields_readText_error_iff {path : Bytes} {reason : SystemError} :
    (readText path).Yields t (.error reason) ↔ Unread path t reason := by
  rw [yields_readText_iff]
  constructor
  · rintro ⟨content, reads, failed⟩
    obtain ⟨nul, rfl, rfl⟩ | ⟨noNul, ⟨reason', _, final, rfl, rfl⟩ | ⟨fd, _, t', closed, rfl,
      whole⟩⟩ := yields_read_iff.1 reads
    · cases failed
      exact .unnamed nul
    · cases failed
      exact .unopened noNul final
    · cases content with
      | error reason' =>
        cases failed
        exact .broken noNul whole
      | ok bytes =>
        obtain ⟨noText, rfl⟩ := asText_ok_eq_error_iff.1 failed.symm
        exact .notText noNul whole noText
  · rintro (nul | ⟨noNul, final⟩ | ⟨noNul, broken⟩ | ⟨noNul, whole, noText⟩)
    · exact ⟨_, yields_read_iff.2 (.inl ⟨nul, rfl, rfl⟩), rfl⟩
    · exact ⟨_, yields_read_iff.2 (.inr ⟨noNul, .inl ⟨_, _, final, rfl, rfl⟩⟩), rfl⟩
    · exact ⟨_, yields_read_iff.2 (.inr ⟨noNul, .inr ⟨_, _, _, _, rfl, broken⟩⟩), rfl⟩
    · have failed := asText_ok_eq_error_iff.2 ⟨noText, rfl⟩
      exact ⟨_, yields_read_iff.2 (.inr ⟨noNul, .inr ⟨_, _, _, _, rfl, whole⟩⟩), failed.symm⟩

end FileAccess

end Coprocess
