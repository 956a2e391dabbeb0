import Coprocess.Bytes

/-!
# Reading back what was written

The UTF-8 form of a text is read back as that text (`Bytes.text?_ofText`), and a byte string that is
read is the form of what is read (`Bytes.eq_ofText_of_text?`).  Texts and well-formed byte strings
therefore correspond to each other, which is what lets paths that are given as text travel as bytes.
A character below 128 occurs in a text just where its byte occurs in the form
(`Bytes.toUInt8_mem_ofText_iff`), so that separators can be looked for in either.

Both directions come down to one character: `Utf8.next_utf8EncodeChar` reads a character from its
own bytes, and `Utf8.utf8EncodeChar_of_next` finds the bytes of a character where it was read.
-/

namespace Coprocess

namespace Utf8

/-! ### Forms -/

theorem takeTail_cons {b : UInt8} (h : 128 ≤ b.toNat ∧ b.toNat < 192) (extra acc taken : Nat)
    (rest : Bytes) :
    takeTail (extra + 1) acc taken (b :: rest) =
      takeTail extra (acc * 64 + b.toNat % 64) (taken + 1) rest := by
  have low : 0x80 ≤ b := UInt8.le_iff_toNat_le.2 h.1
  have high : b ≤ 0xBF := UInt8.le_iff_toNat_le.2 (Nat.le_of_lt_succ h.2)
  simp [takeTail, low, high]

theorem next_cons {lead b low high : UInt8} {extra : Nat} (wide : 128 ≤ lead.toNat)
    (form : tailOf lead = some (low, high, extra)) (least : low.toNat ≤ b.toNat)
    (greatest : b.toNat ≤ high.toNat) (more : Bytes) :
    next lead (b :: more) =
      let step := takeTail extra (leadBits lead extra * 64 + b.toNat % 64) 1 more
      (if step.1 then some (Char.ofNat step.2.1) else none, step.2.2) := by
  have : ¬ lead < 0x80 := fun h => Nat.not_lt.2 wide (UInt8.lt_iff_toNat_lt.1 h)
  simp [next, this, form, UInt8.le_iff_toNat_le.2 least, UInt8.le_iff_toNat_le.2 greatest]

/-- The form that a lead byte starts, by its value. -/
theorem tailOf_eq (lead : UInt8) :
    tailOf lead =
      if lead.toNat < 194 then none
      else if lead.toNat < 224 then some (0x80, 0xBF, 0)
      else if lead.toNat = 224 then some (0xA0, 0xBF, 1)
      else if lead.toNat = 237 then some (0x80, 0x9F, 1)
      else if lead.toNat < 240 then some (0x80, 0xBF, 1)
      else if lead.toNat = 240 then some (0x90, 0xBF, 2)
      else if lead.toNat < 244 then some (0x80, 0xBF, 2)
      else if lead.toNat = 244 then some (0x80, 0x8F, 2)
      else none := by
  simp only [tailOf, UInt8.lt_iff_toNat_lt, beq_iff_eq, ← UInt8.toNat_inj]
  rfl

/-! ### What is written is read back -/

/-- A lead byte below 128 is a character by itself. -/
theorem next_of_lt {lead : UInt8} (h : lead.toNat < 128) (rest : Bytes) :
    next lead rest = (some (Char.ofNat lead.toNat), 0) := by
  have : lead < 0x80 := UInt8.lt_iff_toNat_lt.2 h
  simp [next, this]

theorem next_two {lead b : UInt8} {v : Nat} (hv : 128 ≤ v ∧ v < 2048)
    (hl : lead.toNat = v / 64 % 32 + 192) (hb : b.toNat = v % 64 + 128) (rest : Bytes) :
    next lead (b :: rest) = (some (Char.ofNat v), 1) := by
  have form : tailOf lead = some (0x80, 0xBF, 0) := by
    rw [tailOf_eq, if_neg (by omega), if_pos (by omega)]
  rw [next_cons (by omega) form (by simp; omega) (by simp; omega)]
  have : leadBits lead 0 * 64 + b.toNat % 64 = v := by
    simp only [leadBits, hl, hb, beq_self_eq_true, if_true]
    omega
  simp [takeTail, this]

theorem next_three {lead b c : UInt8} {v : Nat} (hv : 2048 ≤ v ∧ v < 65536)
    (noSurrogate : v < 0xD800 ∨ 0xDFFF < v) (hl : lead.toNat = v / 4096 % 16 + 224)
    (hb : b.toNat = v / 64 % 64 + 128) (hc : c.toNat = v % 64 + 128) (rest : Bytes) :
    next lead (b :: c :: rest) = (some (Char.ofNat v), 2) := by
  have ⟨low, high, form, least, greatest⟩ : ∃ low high, tailOf lead = some (low, high, 1) ∧
      low.toNat ≤ b.toNat ∧ b.toNat ≤ high.toNat := by
    rw [tailOf_eq, if_neg (by omega), if_neg (by omega)]
    by_cases first : lead.toNat = 224
    · exact ⟨0xA0, 0xBF, if_pos first, by simp; omega, by simp; omega⟩
    by_cases last : lead.toNat = 237
    · exact ⟨0x80, 0x9F, by rw [if_neg first, if_pos last], by simp; omega, by simp; omega⟩
    · exact ⟨0x80, 0xBF, by rw [if_neg first, if_neg last, if_pos (by omega)], by simp; omega,
        by simp; omega⟩
  rw [next_cons (by omega) form least greatest, takeTail_cons (by omega)]
  have : (leadBits lead 1 * 64 + b.toNat % 64) * 64 + c.toNat % 64 = v := by
    simp only [leadBits, hl, hb, hc]
    simp
    omega
  simp [takeTail, this]

theorem next_four {lead b c d : UInt8} {v : Nat} (hv : 65536 ≤ v ∧ v < 0x110000)
    (hl : lead.toNat = v / 262144 % 8 + 240) (hb : b.toNat = v / 4096 % 64 + 128)
    (hc : c.toNat = v / 64 % 64 + 128) (hd : d.toNat = v % 64 + 128) (rest : Bytes) :
    next lead (b :: c :: d :: rest) = (some (Char.ofNat v), 3) := by
  have ⟨low, high, form, least, greatest⟩ : ∃ low high, tailOf lead = some (low, high, 2) ∧
      low.toNat ≤ b.toNat ∧ b.toNat ≤ high.toNat := by
    rw [tailOf_eq, if_neg (by omega), if_neg (by omega), if_neg (by omega), if_neg (by omega),
      if_neg (by omega)]
    by_cases first : lead.toNat = 240
    · exact ⟨0x90, 0xBF, if_pos first, by simp; omega, by simp; omega⟩
    by_cases inner : lead.toNat < 244
    · exact ⟨0x80, 0xBF, by rw [if_neg first, if_pos inner], by simp; omega, by simp; omega⟩
    · exact ⟨0x80, 0x8F, by rw [if_neg first, if_neg inner, if_pos (by omega)], by simp; omega,
        by simp; omega⟩
  rw [next_cons (by omega) form least greatest, takeTail_cons (by omega),
    takeTail_cons (by omega)]
  have : ((leadBits lead 2 * 64 + b.toNat % 64) * 64 + c.toNat % 64) * 64 + d.toNat % 64 = v := by
    simp only [leadBits, hl, hb, hc, hd]
    simp
    omega
  simp [takeTail, this]

/-- A character is read back from its own bytes, whatever follows them. -/
theorem next_utf8EncodeChar (c : Char) :
    ∃ lead tail, String.utf8EncodeChar c = lead :: tail ∧
      ∀ rest, next lead (tail ++ rest) = (some c, tail.length) := by
  have small {n : Nat} (h : n < 256) : (UInt8.ofNat n).toNat = n := by simpa using h
  have range : c.toNat < 0xD800 ∨ 0xDFFF < c.toNat ∧ c.toNat < 0x110000 := c.valid
  rw [← Char.ofNat_toNat c]
  simp only [String.utf8EncodeChar, show (Char.ofNat c.toNat).val.toNat = c.toNat by
    rw [Char.ofNat_toNat]; rfl]
  generalize c.toNat = v at range ⊢
  split
  · refine ⟨_, _, rfl, fun rest => ?_⟩
    have h : (UInt8.ofNat v).toNat = v := small (by omega)
    rw [next_of_lt (by omega), h]
    rfl
  split
  · exact ⟨_, _, rfl, next_two (by omega) (small (by omega)) (small (by omega))⟩
  split
  · exact ⟨_, _, rfl,
      next_three (by omega) (by omega) (small (by omega)) (small (by omega)) (small (by omega))⟩
  · exact ⟨_, _, rfl, next_four (by omega) (small (by omega)) (small (by omega)) (small (by omega))
      (small (by omega))⟩

theorem charsOnto_ofChars (cs : List Char) (acc : List Char) (rest : Bytes) :
    charsOnto acc (Bytes.ofChars cs ++ rest) = charsOnto (cs.reverse ++ acc) rest := by
  induction cs generalizing acc with
  | nil => rfl
  | cons c cs ih =>
    obtain ⟨lead, tail, code, read⟩ := next_utf8EncodeChar c
    rw [Bytes.ofChars, List.flatMap_cons, code, List.cons_append, List.cons_append,
      List.append_assoc, charsOnto, read]
    simpa [Bytes.ofChars] using ih (c :: acc)

/-! ### What is read was written -/

/-- What is known of a lead byte and the bounds for the byte after it. -/
theorem bounds_of_tailOf {lead low high : UInt8} {extra : Nat}
    (form : tailOf lead = some (low, high, extra)) :
    128 ≤ low.toNat ∧ high.toNat ≤ 191 ∧
      (extra = 0 ∧ 194 ≤ lead.toNat ∧ lead.toNat < 224 ∨
        extra = 1 ∧ 224 ≤ lead.toNat ∧ lead.toNat < 240 ∧ (lead.toNat = 224 → 160 ≤ low.toNat) ∧
          (lead.toNat = 237 → high.toNat ≤ 159) ∨
        extra = 2 ∧ 240 ≤ lead.toNat ∧ lead.toNat ≤ 244 ∧ (lead.toNat = 240 → 144 ≤ low.toNat) ∧
          (lead.toNat = 244 → high.toNat ≤ 143)) := by
  rw [tailOf_eq] at form
  repeat' split at form
  all_goals
    cases form
    try
      simp
      omega

theorem exists_of_takeTail {extra acc taken : Nat} {rest : Bytes} {r : Nat × Nat}
    (read : takeTail (extra + 1) acc taken rest = (true, r)) :
    ∃ b more, rest = b :: more ∧ 128 ≤ b.toNat ∧ b.toNat < 192 ∧
      takeTail extra (acc * 64 + b.toNat % 64) (taken + 1) more = (true, r) := by
  cases rest with
  | nil => simp [takeTail] at read
  | cons b more =>
    rw [takeTail] at read
    split at read
    next h =>
      simp only [Bool.and_eq_true, decide_eq_true_eq, UInt8.le_iff_toNat_le] at h
      exact ⟨b, more, rfl, h.1, Nat.lt_succ_of_le h.2, read⟩
    next => simp at read

theorem exists_of_next {lead : UInt8} {rest : Bytes} {c : Char} {n : Nat}
    (wide : 128 ≤ lead.toNat) (read : next lead rest = (some c, n)) :
    ∃ low high extra b more v, tailOf lead = some (low, high, extra) ∧ rest = b :: more ∧
      low.toNat ≤ b.toNat ∧ b.toNat ≤ high.toNat ∧
      takeTail extra (leadBits lead extra * 64 + b.toNat % 64) 1 more = (true, v, n) ∧
      c = Char.ofNat v := by
  have : ¬ lead < 0x80 := fun h => Nat.not_lt.2 wide (UInt8.lt_iff_toNat_lt.1 h)
  unfold next at read
  rw [if_neg this] at read
  cases form : tailOf lead with
  | none => simp [form] at read
  | some bounds =>
    obtain ⟨low, high, extra⟩ := bounds
    cases rest with
    | nil => simp [form] at read
    | cons b more =>
      simp only [form, Bool.and_eq_true, decide_eq_true_eq, UInt8.le_iff_toNat_le] at read
      split at read
      next h =>
        generalize ht : takeTail extra (leadBits lead extra * 64 + b.toNat % 64) 1 more = t at read
        obtain ⟨whole, v, taken⟩ := t
        cases whole with
        | false => simp at read
        | true =>
          obtain ⟨rfl, rfl⟩ : Char.ofNat v = c ∧ taken = n := by simpa using read
          exact ⟨low, high, extra, b, more, v, rfl, rfl, h.1, h.2, ht, rfl⟩
      next => simp at read

/-- The bytes of a character are those that it was read from. -/
theorem utf8EncodeChar_of_next {lead : UInt8} {rest : Bytes} {c : Char} {n : Nat}
    (read : next lead rest = (some c, n)) : String.utf8EncodeChar c = lead :: rest.take n := by
  have value {v : Nat} (h : v < 0xD800 ∨ 0xDFFF < v ∧ v < 0x110000) :
      (Char.ofNat v).val.toNat = v := by
    rw [Char.ofNat, dif_pos h]
    rfl
  have byte {n : Nat} {b : UInt8} (h : n = b.toNat) : UInt8.ofNat n = b := by simp [h]
  by_cases wide : 128 ≤ lead.toNat
  · obtain ⟨low, high, extra, b, more, v, form, rfl, least, greatest, tail, rfl⟩ :=
      exists_of_next wide read
    obtain ⟨hlow, hhigh, ⟨rfl, h⟩ | ⟨rfl, h⟩ | ⟨rfl, h⟩⟩ := bounds_of_tailOf form
    · obtain ⟨rfl, rfl⟩ : _ = v ∧ 1 = n := by simpa [takeTail] using tail
      simp only [leadBits]
      rw [String.utf8EncodeChar, value (by simp; omega), if_neg (by simp; omega),
        if_pos (by simp; omega), byte (b := lead) (by simp; omega), byte (b := b) (by simp; omega)]
      rfl
    · obtain ⟨c, more, rfl, hc, hc', tail⟩ := exists_of_takeTail tail
      obtain ⟨rfl, rfl⟩ : _ = v ∧ 2 = n := by simpa [takeTail] using tail
      simp only [leadBits]
      rw [String.utf8EncodeChar, value (by simp; omega), if_neg (by simp; omega),
        if_neg (by simp; omega), if_pos (by simp; omega), byte (b := lead) (by simp; omega),
        byte (b := b) (by simp; omega), byte (b := c) (by simp; omega)]
      rfl
    · obtain ⟨c, more, rfl, hc, hc', tail⟩ := exists_of_takeTail tail
      obtain ⟨d, more, rfl, hd, hd', tail⟩ := exists_of_takeTail tail
      obtain ⟨rfl, rfl⟩ : _ = v ∧ 3 = n := by simpa [takeTail] using tail
      simp only [leadBits]
      rw [String.utf8EncodeChar, value (by simp; omega), if_neg (by simp; omega),
        if_neg (by simp; omega), if_neg (by simp; omega), byte (b := lead) (by simp; omega),
        byte (b := b) (by simp; omega), byte (b := c) (by simp; omega),
        byte (b := d) (by simp; omega)]
      rfl
  · rw [next_of_lt (by omega)] at read
    obtain ⟨hc, rfl⟩ := Prod.mk.inj read
    obtain rfl := Option.some.inj hc
    rw [String.utf8EncodeChar, value (by omega), if_pos (by omega)]
    simp

/-- Characters that were read have just the bytes that they were read from. -/
theorem ofChars_of_charsOnto {b : Bytes} {acc cs : List Char}
    (read : charsOnto acc b = some cs) :
    Bytes.ofChars cs.reverse = Bytes.ofChars acc.reverse ++ b := by
  fun_induction charsOnto acc b with
  | case1 acc => simp_all
  | case2 acc lead rest step c hc ih =>
    have code : String.utf8EncodeChar c = lead :: rest.take step.2 :=
      utf8EncodeChar_of_next (Prod.ext hc rfl)
    rw [ih read]
    simp [Bytes.ofChars, code, step]
  | case3 => simp at read

/-! ### Characters of one byte -/

/-- A character below 128 is a single byte. -/
theorem utf8EncodeChar_of_lt {c : Char} (h : c.toNat < 128) :
    String.utf8EncodeChar c = [c.toUInt8] := by
  have : c.val.toNat ≤ 0x7F := Nat.le_of_lt_succ h
  rw [String.utf8EncodeChar, if_pos this]
  rfl

/-- All bytes of any other character are 128 or more. -/
theorem le_of_mem_utf8EncodeChar {c : Char} (h : 128 ≤ c.toNat) {b : UInt8}
    (hb : b ∈ String.utf8EncodeChar c) : 128 ≤ b.toNat := by
  have : ¬ c.val.toNat ≤ 0x7F := Nat.not_le.2 h
  rw [String.utf8EncodeChar, if_neg this] at hb
  split at hb
  · simp only [List.mem_cons, List.not_mem_nil, or_false] at hb
    rcases hb with rfl | rfl <;> simp <;> omega
  split at hb
  · simp only [List.mem_cons, List.not_mem_nil, or_false] at hb
    rcases hb with rfl | rfl | rfl <;> simp <;> omega
  · simp only [List.mem_cons, List.not_mem_nil, or_false] at hb
    rcases hb with rfl | rfl | rfl | rfl <;> simp <;> omega

theorem toUInt8_mem_utf8EncodeChar_iff {a c : Char} (ascii : a.toNat < 128) :
    a.toUInt8 ∈ String.utf8EncodeChar c ↔ a = c := by
  have value {x : Char} (h : x.toNat < 128) : x.toUInt8.toNat = x.toNat :=
    UInt8.toNat_ofNat_of_lt' (Nat.lt_trans h (by decide))
  by_cases h : c.toNat < 128
  · rw [utf8EncodeChar_of_lt h, List.mem_singleton, ← UInt8.toNat_inj, value ascii, value h,
      Char.toNat_inj]
  · constructor
    · intro mem
      have := le_of_mem_utf8EncodeChar (Nat.not_lt.1 h) mem
      rw [value ascii] at this
      omega
    · rintro rfl
      exact absurd ascii h

end Utf8

/-! ### Texts -/

namespace Bytes

theorem chars?_ofChars (cs : List Char) : chars? (ofChars cs) = some cs := by
  have := Utf8.charsOnto_ofChars cs [] []
  rw [List.append_nil] at this
  simp [chars?, this, Utf8.charsOnto]

theorem text?_ofText (s : String) : text? (ofText s) = some s := by
  simp [text?, ofText, chars?_ofChars]

theorem eq_ofText_of_text? {b : Bytes} {s : String} (h : text? b = some s) : b = ofText s := by
  obtain ⟨cs, hc, rfl⟩ := Option.map_eq_some_iff.1 h
  obtain ⟨back, hb, rfl⟩ := Option.map_eq_some_iff.1 hc
  simpa [ofText, ofChars] using (Utf8.ofChars_of_charsOnto hb).symm

/-- A character below 128 is found by looking for its byte, since no other character's bytes
contain it. -/
theorem toUInt8_mem_ofText_iff {a : Char} (ascii : a.toNat < 128) {s : String} :
    a.toUInt8 ∈ ofText s ↔ a ∈ s.toList := by
  simp only [ofText, ofChars, List.mem_flatMap, Utf8.toUInt8_mem_utf8EncodeChar_iff ascii,
    exists_eq_right']

/-! ### Pieces -/

/-- The pieces of a byte string are those of the library's list function. -/
theorem splitOn_eq_listSplitOn (sep : UInt8) (b : Bytes) : splitOn sep b = List.splitOn sep b := by
  induction b with
  | nil => rfl
  | cons b rest ih =>
    obtain ⟨piece, more, hs⟩ := List.exists_cons_of_ne_nil (List.splitOn_ne_nil sep rest)
    rw [splitOn_cons, ih, List.splitOn_cons_eq_if_modifyHead, hs]
    rfl

end Bytes

end Coprocess
