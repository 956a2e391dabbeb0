import Coprocess.Bytes.Lemmas
import Coprocess.Command
import Mathlib.Tactic.Common

/-!
# The launch contract

A command can break several rules of the contract at once.  Each rule is stated here by itself
(`Command.Breaks`), without regard to the others, and `Command.rules` lists them in the order in
which they are looked at.  The classifier reports the first one that is broken
(`Command.classify_eq`), and it accepts a command that breaks none.

The rules speak of characters, and so does the classifier.  Everything below it speaks of bytes: the
meta characters and the separator are single bytes, which no other character's bytes contain, so
that a scan of the bytes decides the same (`Command.isShellLine_iff_bytes`).

Main statement:
* `Command.classify_decides`: which commands are accepted and as what, which rejection all others
  get, and that the bytes of the line decide as its characters do.
-/

namespace Coprocess.Command

/-! ### The rules -/

/-- A line for the shell: it holds a meta character. -/
def IsShellLine (line : String) : Prop := ∃ x ∈ line.toList, x ∈ metaCharacters

instance (line : String) : Decidable (IsShellLine line) :=
  inferInstanceAs (Decidable (∃ x ∈ line.toList, x ∈ metaCharacters))

/-- The command breaks the rule that stands behind a rejection, whatever other rules it breaks. -/
def Breaks (c : Command) : Rejection → Prop
  | .emptyCommand => c.line = ""
  | .nulByte => '\x00' ∈ c.line.toList ∨ (∃ a ∈ c.argv.getD [], '\x00' ∈ a.toList) ∨
      ∃ e ∈ c.envv.getD [], '\x00' ∈ e.toList
  | .argvWithShellLine => IsShellLine c.line ∧ c.argv ≠ none
  | .missingArgv => ¬ IsShellLine c.line ∧ c.argv = none
  | .emptyArgv => c.argv = some []
  -- The room for a terminal's name is no matter of the command.
  | .slaveNameCapacity _ _ => False

instance (c : Command) : DecidablePred c.Breaks
  | .emptyCommand => inferInstanceAs (Decidable (c.line = ""))
  | .nulByte =>
    inferInstanceAs (Decidable (_ ∨ (∃ a ∈ c.argv.getD [], _) ∨ ∃ e ∈ c.envv.getD [], _))
  | .argvWithShellLine => inferInstanceAs (Decidable (IsShellLine c.line ∧ c.argv ≠ none))
  | .missingArgv => inferInstanceAs (Decidable (¬ IsShellLine c.line ∧ c.argv = none))
  | .emptyArgv => inferInstanceAs (Decidable (c.argv = some []))
  | .slaveNameCapacity _ _ => inferInstanceAs (Decidable False)

/-- The rules for commands, in the order in which they are looked at. -/
def rules : List Rejection :=
  [.emptyCommand, .nulByte, .argvWithShellLine, .missingArgv, .emptyArgv]

/-- What a line is resolved as, by its characters alone. -/
def kindOf (line : String) : Kind :=
  if IsShellLine line then .shell else if '/' ∈ line.toList then .path else .bare

/-! ### The classifier and the rules -/

theorem hasMeta_iff {line : String} : hasMeta line = true ↔ IsShellLine line := by
  simp [hasMeta, IsShellLine]

theorem textHasNul_iff {s : String} : textHasNul s = true ↔ '\x00' ∈ s.toList := by
  simp [textHasNul]

theorem hasNul_iff {c : Command} : c.hasNul = true ↔ c.Breaks .nulByte := by
  simp [hasNul, Breaks, textHasNul_iff, or_assoc]

/-- The classifier reports the first rule that is broken. -/
theorem classify_eq (c : Command) :
    c.classify = match rules.find? (c.Breaks ·) with
      | some reason => .error reason
      | none => .ok (kindOf c.line) := by
  have isEmpty : c.line.isEmpty = true ↔ c.Breaks .emptyCommand := String.isEmpty_iff
  have given : c.Breaks .argvWithShellLine ↔ IsShellLine c.line ∧ c.argv ≠ none := Iff.rfl
  have missing : c.Breaks .missingArgv ↔ ¬ IsShellLine c.line ∧ c.argv = none := Iff.rfl
  have bare : c.Breaks .emptyArgv ↔ c.argv = some [] := Iff.rfl
  by_cases empty : c.Breaks .emptyCommand
  · simp [classify, rules, isEmpty, empty]
  by_cases nul : c.Breaks .nulByte
  · simp [classify, rules, isEmpty, hasNul_iff, empty, nul]
  by_cases shellLine : IsShellLine c.line
  · cases argv : c.argv <;>
      simp [classify, rules, isEmpty, hasNul_iff, hasMeta_iff.2 shellLine, kindOf, given, missing,
        bare, empty, nul, shellLine, argv]
  · have plain : hasMeta c.line = false := Bool.eq_false_iff.2 (mt hasMeta_iff.1 shellLine)
    rcases argv : c.argv with _ | _ | _ <;>
      simp [classify, rules, isEmpty, hasNul_iff, plain, kindOf, given, missing, bare, empty, nul,
        shellLine, argv]

/-- A command is accepted if it breaks no rule, and then its line alone says what it is. -/
theorem classify_eq_ok_iff {c : Command} {kind : Kind} :
    c.classify = .ok kind ↔ (∀ reason ∈ rules, ¬ c.Breaks reason) ∧ kind = kindOf c.line := by
  rw [classify_eq]
  cases first : rules.find? (c.Breaks ·) with
  | none =>
    have kept : ∀ reason ∈ rules, ¬ c.Breaks reason := by simpa using first
    simp [eq_comm, and_iff_right kept]
  | some reason =>
    obtain ⟨broken, found⟩ := And.intro (List.find?_some first) (List.mem_of_find?_eq_some first)
    simp only [reduceCtorEq, false_iff, not_and]
    exact fun kept => absurd (of_decide_eq_true broken) (kept reason found)

theorem classify_eq_error_iff {c : Command} {reason : Rejection} :
    c.classify = .error reason ↔ rules.find? (c.Breaks ·) = some reason := by
  rw [classify_eq]
  cases rules.find? (c.Breaks ·) <;> simp

/-! ### Characters and bytes -/

/-- The bytes that send a line to the shell. -/
def metaBytes : List UInt8 :=
  [0x7C, 0x26, 0x3B, 0x28, 0x29, 0x3C, 0x3E, 0x5B, 0x5D, 0x7B, 0x7D, 0x24, 0x60, 0x27, 0x7E, 0x22,
    0x5C, 0x2A, 0x3F, 0x20, 0x09, 0x0D, 0x0A]

theorem map_toUInt8_metaCharacters : metaCharacters.map Char.toUInt8 = metaBytes := rfl

/-- Looking for a meta byte in the form of a line is looking for a meta character in the line. -/
theorem isShellLine_iff_bytes {line : String} :
    IsShellLine line ↔ ∃ b ∈ Bytes.ofText line, b ∈ metaBytes := by
  have ascii (x : Char) (isMeta : x ∈ metaCharacters) : x.toNat < 128 := by
    have all : metaCharacters.all (·.toNat < 128) = true := rfl
    exact of_decide_eq_true (List.all_eq_true.1 all x isMeta)
  rw [← map_toUInt8_metaCharacters]
  constructor
  · rintro ⟨x, mem, isMeta⟩
    exact ⟨x.toUInt8, (Bytes.toUInt8_mem_ofText_iff (ascii x isMeta)).2 mem,
      List.mem_map_of_mem isMeta⟩
  · rintro ⟨b, mem, listed⟩
    obtain ⟨x, isMeta, rfl⟩ := List.mem_map.1 listed
    exact ⟨x, (Bytes.toUInt8_mem_ofText_iff (ascii x isMeta)).1 mem, isMeta⟩

theorem slash_mem_iff_bytes {line : String} :
    '/' ∈ line.toList ↔ 0x2F ∈ Bytes.ofText line :=
  (Bytes.toUInt8_mem_ofText_iff (a := '/') (by decide)).symm

/-! ### The whole contract -/

/-- The three rules for arguments together: none for the shell, and some for everything else. -/
theorem arguments_iff {c : Command} :
    ((IsShellLine c.line → c.argv = none) ∧ (¬ IsShellLine c.line → c.argv ≠ none) ∧
        c.argv ≠ some []) ↔
      IsShellLine c.line ∧ c.argv = none ∨
        ¬ IsShellLine c.line ∧ ∃ name rest, c.argv = some (name :: rest) := by
  rcases c.argv with _ | _ | _ <;> by_cases shellLine : IsShellLine c.line <;> simp [shellLine]

/-- **The classifier decides the contract.** A command is accepted just if its line is not empty, no
zero byte occurs in it, and it comes without arguments if it holds a meta character and with some
if it holds none; it is then for the shell, a path or a name, by its characters.  Every other
command is rejected for the first rule that it breaks.  Meta characters and separators can be looked
for among the bytes of the line. -/
theorem classify_decides (c : Command) :
    (∀ kind, c.classify = .ok kind ↔
      (c.line ≠ "" ∧
        ('\x00' ∉ c.line.toList ∧ (∀ a ∈ c.argv.getD [], '\x00' ∉ a.toList) ∧
          ∀ e ∈ c.envv.getD [], '\x00' ∉ e.toList) ∧
        (IsShellLine c.line ∧ c.argv = none ∨
          ¬ IsShellLine c.line ∧ ∃ name rest, c.argv = some (name :: rest))) ∧
      kind = if IsShellLine c.line then .shell else if '/' ∈ c.line.toList then .path else .bare) ∧
    (∀ reason, c.classify = .error reason ↔ rules.find? (c.Breaks ·) = some reason) ∧
    (IsShellLine c.line ↔ ∃ b ∈ Bytes.ofText c.line, b ∈ metaBytes) ∧
    ('/' ∈ c.line.toList ↔ 0x2F ∈ Bytes.ofText c.line) := by
  refine ⟨fun kind => ?_, fun reason => classify_eq_error_iff, isShellLine_iff_bytes,
    slash_mem_iff_bytes⟩
  rw [classify_eq_ok_iff]
  refine and_congr_left fun _ => ?_
  rw [← arguments_iff]
  simp [rules, Breaks]

end Coprocess.Command
