import Coprocess.Proofs.Attainment
import Coprocess.Transfer
import Coprocess.Waiting

/-!
# Limited reads

A limited read takes what a stream has, in whatever pieces that comes, until it has as much as is
wanted or the stream ends.  As long as there is something to read each time before the deadline, the
pieces do not matter: the read comes to an end with exactly the beginning of the stream, and leaves
the rest to the next one (`LimitedRead.Supplies.attains`).

`LimitedRead.Supplies` says what that takes of the host and the reader.  The reader is only ever
asked for a number of bytes that the buffer holds and that is still wanted, and need not be able to
deliver any other.

The main statement is `LimitedRead.independent_of_pieces`.
-/

namespace Coprocess

open Host Program

/-! ### Rounds -/

/-- One round of a limited read: what was read so far is enough, or there is something to read in
time and the next piece is read. -/
def limitedRound (fd : Fd) (read : Nat → Program (Except SystemError Bytes)) (wanted : Nat)
    (deadline : Instant) :
    Nat × List Bytes → Program ((Nat × List Bytes) ⊕ Except SystemError Bytes)
  | (got, chunks) =>
    if wanted ≤ got then .done (.inr (.ok chunks.reverse.flatten))
    else (request .now).bind fun now =>
      (if deadline - now == 0 then .done false else waitReadable fd (deadline - now)).bind
        fun timely =>
          if !timely then .done (.inr (.error (.timedOut got wanted)))
          else (read (min (wanted - got) readChunk)).bind fun
            | .error reason => .done (.inr (.error reason))
            | .ok [] => .done (.inr (.ok chunks.reverse.flatten))
            | .ok data => .done (.inl (got + data.length, data :: chunks))

theorem readWithin_eq (fd : Fd) (read : Nat → Program (Except SystemError Bytes)) (wanted : Nat)
    (timeout : Duration) :
    readWithin fd read wanted timeout = (request .now).bind fun start =>
      .iterate (0, []) (limitedRound fd read wanted (start + timeout)) := by
  rw [readWithin, bind_eq]
  refine congrArg (Program.bind _) (funext fun start => ?_)
  refine congrArg (Program.iterate _) (funext fun (s : Nat × List Bytes) => ?_)
  obtain ⟨got, chunks⟩ := s
  unfold limitedRound
  dsimp only
  split
  · rfl
  · refine congrArg (Program.bind _) (funext fun now => ?_)
    split
    · rfl
    · refine congrArg (Program.bind _) (funext fun timely => ?_)
      split
      · rfl
      · refine congrArg (Program.bind _) (funext fun answer => ?_)
        rcases answer with reason | _ | ⟨first, others⟩ <;> rfl

/-- A limited read makes no use of its reader but for numbers of bytes from one up to what the
buffer holds and what is wanted. -/
theorem readWithin_congr {fd : Fd} {read read' : Nat → Program (Except SystemError Bytes)}
    {wanted : Nat} {timeout : Duration}
    (same : ∀ count, 0 < count → count ≤ readChunk → count ≤ wanted → read count = read' count) :
    readWithin fd read wanted timeout = readWithin fd read' wanted timeout := by
  rw [readWithin_eq, readWithin_eq]
  refine congrArg _ (funext fun start => congrArg _ (funext fun (s : Nat × List Bytes) => ?_))
  obtain ⟨got, chunks⟩ := s
  unfold limitedRound
  dsimp only
  split
  · rfl
  next more =>
    have inRange : read (min (wanted - got) readChunk) = read' (min (wanted - got) readChunk) :=
      same _ (by simp only [readChunk]; omega) (Nat.min_le_right _ _) (by omega)
    rw [inRange]

/-- A limited read of a reader on a host. -/
structure LimitedRead (σ : Type) where
  host : σ → Exchange → σ → Prop
  /-- The descriptor that is waited for. -/
  fd : Fd
  read : Nat → Program (Except SystemError Bytes)
  timeout : Duration

namespace LimitedRead

variable {σ : Type} {r : LimitedRead σ} {left : σ → Bytes} {stream : Bytes} {wanted : Nat} {w : σ}

/-- Reads so many bytes. -/
def run (r : LimitedRead σ) (wanted : Nat) : Program (Except SystemError Bytes) :=
  readWithin r.fd r.read wanted r.timeout

/-- The host lets the read have `wanted` bytes of the stream in time.  The states are those that the
host is in until the read has ended, and `left` is what is left of the stream in each of them. -/
structure Supplies (r : LimitedRead σ) (left : σ → Bytes) (stream : Bytes) (wanted : Nat) :
    Prop where
  /-- Whenever the clock is looked at while something is wanted, the deadline has not come. -/
  clock : ∃ dawn : Instant, ∀ w, (∃ now w', r.host w (.reply .now now) w') ∧
    ∀ now w', r.host w (.reply .now now) w' →
      dawn ≤ now ∧ (0 < wanted → now < dawn + r.timeout) ∧ left w' = left w
  /-- Whoever waits finds something to read, or the end of the stream. -/
  ready : ∀ w deadline, (∃ ready w', r.host w (.reply (.awaitReadable r.fd deadline) ready) w') ∧
    ∀ ready w', r.host w (.reply (.awaitReadable r.fd deadline) ready) w' →
      ready = true ∧ left w' = left w
  /-- If it is asked for a number of bytes that the buffer holds and that is still wanted, the
  reader hands out the next piece of the stream, of any length up to that number, and no bytes only
  at the end. -/
  delivers : ∀ w count, 0 < count → count ≤ readChunk →
    stream.length + count ≤ wanted + (left w).length →
    (r.read count).Attains r.host (fun result w' => ∃ data, result = .ok data ∧
      data.length ≤ count ∧ left w = data ++ left w' ∧ (data = [] → left w = [])) w

/-- Between two rounds: what was read so far is the beginning of the stream, and no more than is
wanted. -/
structure Underway (left : σ → Bytes) (stream : Bytes) (wanted : Nat) (s : Nat × List Bytes)
    (w : σ) : Prop where
  length : s.2.reverse.flatten.length = s.1
  within : s.1 ≤ wanted
  whole : s.2.reverse.flatten ++ left w = stream

theorem Supplies.waits (supplies : r.Supplies left stream wanted) (limit : Duration) :
    (waitReadable r.fd limit).Attains r.host (fun ready w' => ready = true ∧ left w' = left w)
      w := by
  obtain ⟨dawn, clock⟩ := supplies.clock
  refine .call (clock w).1 fun now w₁ looked => ?_
  obtain ⟨-, -, same⟩ := (clock w).2 now w₁ looked
  refine .call (supplies.ready w₁ _).1 fun ready w₂ waited => ?_
  obtain ⟨timely, same'⟩ := (supplies.ready w₁ _).2 ready w₂ waited
  exact .done ⟨timely, same'.trans same⟩

/-- What a round comes to: the read is still under way and nearer to its end, or it has exactly what
is wanted. -/
theorem Supplies.round (supplies : r.Supplies left stream wanted) {deadline : Instant}
    (early : ∀ w now w', r.host w (.reply .now now) w' → 0 < wanted → now < deadline)
    {s : Nat × List Bytes} (underway : Underway left stream wanted s w) :
    (limitedRound r.fd r.read wanted deadline s).Attains r.host (fun x w' =>
      match x with
      | .inl s' => Underway left stream wanted s' w' ∧ wanted - s'.1 < wanted - s.1
      | .inr result => result = .ok (stream.take wanted) ∧ left w' = stream.drop wanted) w := by
  obtain ⟨got, chunks⟩ := s
  obtain ⟨length, within, whole⟩ := underway
  dsimp only at length within whole
  unfold limitedRound
  dsimp only
  split
  next enough =>
    -- No more was read than is wanted, so it is exactly that.
    have all : chunks.reverse.flatten.length = wanted := by omega
    refine .done ⟨?_, ?_⟩
    · rw [← whole, List.take_left' all]
    · rw [← whole, List.drop_left' all]
  next more =>
    obtain ⟨dawn, clock⟩ := supplies.clock
    refine .call (clock w).1 fun now w₁ looked => ?_
    obtain ⟨-, -, left₁⟩ := (clock w).2 now w₁ looked
    have time : ¬ (deadline - now == 0) = true := by
      rw [beq_iff_eq]
      exact Nat.sub_ne_zero_of_lt (early w now w₁ looked (by omega))
    rw [done_bind, if_neg time]
    refine Attains.bind ((supplies.waits _).mono ?_)
    rintro ready w₂ ⟨rfl, left₂⟩
    have total : got + (left w₂).length = stream.length := by
      rw [left₂, left₁, ← whole, List.length_append, length]
    refine Attains.bind ((supplies.delivers w₂ _ ?_ ?_ ?_).mono ?_)
    · simp only [readChunk]
      omega
    · exact Nat.min_le_right _ _
    · omega
    rintro result w₃ ⟨data, rfl, atMost, piece, atEnd⟩
    rw [left₂, left₁] at piece atEnd
    have onward : chunks.reverse.flatten ++ data ++ left w₃ = stream := by
      rw [List.append_assoc, ← piece, whole]
    cases data with
    | nil =>
      -- The stream has ended before there was enough.
      have ended : chunks.reverse.flatten = stream := by
        rw [← whole, atEnd rfl, List.append_nil]
      have short : stream.length ≤ wanted := by
        rw [← ended]
        omega
      refine .done ⟨?_, ?_⟩
      · rw [List.take_of_length_le short, ended]
      · rw [List.drop_of_length_le short, ← atEnd rfl, piece, List.nil_append]
    | cons first others =>
      refine .done ⟨⟨?_, ?_, ?_⟩, ?_⟩
      · simp [length]
      · omega
      · simpa using onward
      · simp only [List.length_cons]
        omega

/-- A limited read that is supplied has exactly what is wanted of the stream, or all of it if that
is less, and leaves the rest. -/
theorem Supplies.attains (supplies : r.Supplies left stream wanted) (start : left w = stream) :
    (r.run wanted).Attains r.host (fun result w' =>
      result = .ok (stream.take wanted) ∧ left w' = stream.drop wanted) w := by
  rw [run, readWithin_eq]
  obtain ⟨dawn, clock⟩ := supplies.clock
  refine .call (clock w).1 fun now w₁ looked => ?_
  obtain ⟨after, -, same⟩ := (clock w).2 now w₁ looked
  -- The deadline is counted from a time that is not before the dawn.
  have early (w : σ) (now' : Instant) (w' : σ) (looked : r.host w (.reply .now now') w')
      (some : 0 < wanted) : now' < now + r.timeout :=
    Nat.lt_of_lt_of_le (((clock w).2 now' w' looked).2.1 some) (Nat.add_le_add_right after _)
  refine Attains.loop (I := Underway left stream wanted) (fun s => wanted - s.1) ?_ ?_
  · intro s w underway
    refine (supplies.round early underway).mono fun x w' outcome => ?_
    cases x with
    | inl s' => exact outcome
    | inr result => exact .done outcome
  · exact ⟨rfl, Nat.zero_le _, by rw [same, start]; rfl⟩

/-- **The pieces do not matter.**  However a stream comes, a limited read that is supplied comes to
an end with exactly what is wanted of it and leaves the rest, so that two reads after each other
have what one read of as much has, cut where the first ends, though each of the three may get its
own pieces.  A reader is never asked for a number of bytes that is out of range. -/
theorem independent_of_pieces {left : σ → Bytes} {stream : Bytes} :
    (∀ (r : LimitedRead σ) wanted w, r.Supplies left stream wanted → left w = stream →
      (r.run wanted).Attains r.host (fun result w' =>
        result = .ok (stream.take wanted) ∧ left w' = stream.drop wanted) w) ∧
    (∀ (r₁ r₂ r : LimitedRead σ) n m w, r₁.Supplies left stream n →
      r₂.Supplies left (stream.drop n) m → r.Supplies left stream (n + m) → left w = stream →
      ∃ whole,
        (r.run (n + m)).Attains r.host (fun result w' =>
          result = .ok whole ∧ left w' = stream.drop (n + m)) w ∧
        (r₁.run n).Attains r₁.host (fun first w₁ => first = .ok (whole.take n) ∧
          (r₂.run m).Attains r₂.host (fun second w₂ =>
            second = .ok (whole.drop n) ∧ left w₂ = stream.drop (n + m)) w₁) w) ∧
    ∀ (r : LimitedRead σ) read' wanted,
      (∀ count, 0 < count → count ≤ readChunk → count ≤ wanted → r.read count = read' count) →
      r.run wanted = { r with read := read' }.run wanted := by
  refine ⟨fun r wanted w supplies start => supplies.attains start, ?_,
    fun r read' wanted same => readWithin_congr same⟩
  intro r₁ r₂ r n m w first second both start
  refine ⟨stream.take (n + m), both.attains start, (first.attains start).mono ?_⟩
  rintro result w₁ ⟨rfl, rest⟩
  refine ⟨by rw [List.take_take, Nat.min_eq_left (Nat.le_add_right n m)], ?_⟩
  refine (second.attains rest).mono ?_
  rintro result w₂ ⟨rfl, rest'⟩
  refine ⟨?_, by rw [rest', List.drop_drop]⟩
  rw [List.drop_take, Nat.add_sub_cancel_left]

/-! ### Streams under a descriptor -/

/-- A host that hands out a stream under a descriptor, in pieces as it likes, and whose clock stays
short of the time limit. -/
def handsOut (fd : Fd) (timeout : Duration) (s : Bytes) (x : Exchange) (s' : Bytes) : Prop :=
  match x with
  | .reply .now now => now < timeout ∧ s' = s
  | .reply (.awaitReadable _ _) ready => ready = true ∧ s' = s
  | .reply (.read fd' count) answer => fd' = fd ∧ ∃ data, answer = .ok data ∧
      data.length ≤ count ∧ s = data ++ s' ∧ (data = [] → s = [])
  | _ => False

/-- A limited read from a descriptor. -/
def ofDescriptor (fd : Fd) (timeout : Duration) : LimitedRead Bytes :=
  ⟨handsOut fd timeout, fd, Transfer.readFd fd, timeout⟩

theorem supplies_ofDescriptor {fd : Fd} {timeout : Duration} (some : 0 < timeout) :
    (ofDescriptor fd timeout).Supplies id stream wanted where
  clock := by
    refine ⟨0, fun s => ⟨⟨0, s, some, rfl⟩, ?_⟩⟩
    rintro now s' ⟨early, rfl⟩
    exact ⟨Nat.zero_le _, fun _ => by simpa [ofDescriptor] using early, rfl⟩
  ready s deadline := ⟨⟨true, s, rfl, rfl⟩, fun ready s' waited => waited⟩
  delivers s count positive _ _ := by
    -- As much as is asked for can always be handed out.
    have some : s.take count = [] → s = [] := by
      rw [List.take_eq_nil_iff]
      rintro (none | none)
      · omega
      · exact none
    refine .call ⟨.ok (s.take count), s.drop count, rfl, _, rfl, List.length_take_le _ _,
      (List.take_append_drop _ _).symm, some⟩ ?_
    rintro answer s' ⟨-, data, rfl, atMost, piece, atEnd⟩
    exact .done ⟨data, rfl, atMost, piece, atEnd⟩

/-- Three hundred bytes, of which more than the buffer holds are read first, and then more than
there are; some run of the first read yields all that is wanted. -/
theorem independent_of_pieces_of_long_stream :
    (ofDescriptor 3 5000000).Supplies id (List.replicate 300 0x61) 257 ∧
    (ofDescriptor 3 5000000).Supplies id ((List.replicate 300 0x61).drop 257) 100 ∧
    (ofDescriptor 3 5000000).Supplies id (List.replicate 300 0x61) 357 ∧
    (∃ t, ((ofDescriptor 3 5000000).run 257).Yields t (.ok (List.replicate 257 0x61)) ∧
      Answers (handsOut 3 5000000) (List.replicate 300 0x61) t (List.replicate 43 0x61)) ∧
    ∃ whole,
      ((ofDescriptor 3 5000000).run 357).Attains (handsOut 3 5000000) (fun result s =>
        result = .ok whole ∧ s = []) (List.replicate 300 0x61) ∧
      ((ofDescriptor 3 5000000).run 257).Attains (handsOut 3 5000000) (fun first s =>
        first = .ok (whole.take 257) ∧
        ((ofDescriptor 3 5000000).run 100).Attains (handsOut 3 5000000) (fun second s' =>
          second = .ok (whole.drop 257) ∧ s' = []) s) (List.replicate 300 0x61) := by
  have supplies (stream : Bytes) (wanted : Nat) :
      (ofDescriptor 3 5000000).Supplies id stream wanted := supplies_ofDescriptor (by decide)
  obtain ⟨single, split, -⟩ :=
    @independent_of_pieces Bytes id (List.replicate 300 0x61)
  refine ⟨supplies _ _, supplies _ _, supplies _ _, ?_, ?_⟩
  · obtain ⟨t, result, s, run, answered, rfl, rest⟩ :=
      (single (ofDescriptor 3 5000000) 257 _ (supplies _ _) rfl).exists_yields
    rw [List.take_replicate] at run
    rw [List.drop_replicate] at rest
    cases rest
    exact ⟨t, run, answered⟩
  · have none : (List.replicate 300 (0x61 : UInt8)).drop (257 + 100) = [] := by
      rw [List.drop_replicate]
      rfl
    have whole := split _ _ _ 257 100 _ (supplies _ _) (supplies _ _) (supplies _ _) rfl
    rwa [none] at whole

end LimitedRead

end Coprocess
