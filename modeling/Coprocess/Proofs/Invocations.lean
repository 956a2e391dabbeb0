import Coprocess.CommandLine
import Coprocess.Proofs.Contract

/-!
# Commands of the command line

Two places decide whether a command is a line for the shell or a program.  The command line looks at
the characters of the command to see whether it may have arguments, and makes a command of it with
or without an argument list; the classifier looks at the characters of what was made and asks for an
argument list or forbids one.  Both go by the same characters, so that a command made from an
invocation never breaks one of the rules for argument lists (`Invocation.keeps_argument_rules`).
What is left to the classifier is to refuse a command that is empty or holds a zero byte.

Main statement:
* `Invocation.spec_agrees`: which invocations are refused by the command line, which of the others
  by the classifier and why, and what is run for those that neither refuses.
-/

namespace Coprocess.Invocation

open Command

/-- The argument list of the command that is asked for: none for the shell, and the program's own
name first for everything else. -/
def argumentList (i : Invocation) : Option (List String) :=
  if IsShellLine i.command then none else some (i.command :: i.args)

/-- The command or one of its arguments holds a zero byte. -/
def HoldsNul (i : Invocation) : Prop :=
  '\x00' ∈ i.command.toList ∨ ∃ a ∈ i.args, '\x00' ∈ a.toList

variable {i : Invocation} {c : Command}

/-! ### What the command line makes of an invocation -/

theorem spec_of_shellLine (shellLine : IsShellLine i.command) :
    i.spec = if i.args = [] then .ok (.shell i.command) else .error ⟨i.command⟩ := by
  rw [spec, if_pos (hasMeta_iff.2 shellLine)]
  simp only [List.isEmpty_iff]

theorem spec_of_program (named : ¬ IsShellLine i.command) :
    i.spec = .ok (.program i.command (i.command :: i.args)) := by
  rw [spec, if_neg (mt hasMeta_iff.1 named)]

/-- The command line refuses a shell line that has arguments, and nothing else. -/
theorem spec_eq_error_iff {e : ArgumentsWithShellLine} :
    i.spec = .error e ↔ (IsShellLine i.command ∧ i.args ≠ []) ∧ e = ⟨i.command⟩ := by
  by_cases shellLine : IsShellLine i.command
  · rw [spec_of_shellLine shellLine]
    by_cases alone : i.args = [] <;> simp [shellLine, alone, eq_comm]
  · simp [spec_of_program shellLine, shellLine]

theorem spec_eq_ok_iff :
    i.spec = .ok c ↔ (IsShellLine i.command → i.args = []) ∧
      c = { line := i.command, argv := i.argumentList } := by
  by_cases shellLine : IsShellLine i.command
  · rw [spec_of_shellLine shellLine]
    by_cases alone : i.args = [] <;>
      simp [shellLine, alone, argumentList, Command.shell, eq_comm]
  · simp [spec_of_program shellLine, shellLine, argumentList, Command.program, eq_comm]

/-! ### The rules that a command from an invocation can break -/

/-- The argument list fits the line, whatever the invocation. -/
theorem keeps_argument_rules (made : i.spec = .ok c) :
    ¬ c.Breaks .argvWithShellLine ∧ ¬ c.Breaks .missingArgv ∧ ¬ c.Breaks .emptyArgv := by
  obtain ⟨-, rfl⟩ := spec_eq_ok_iff.1 made
  by_cases shellLine : IsShellLine i.command <;> simp [Breaks, argumentList, shellLine]

theorem breaks_emptyCommand_iff (made : i.spec = .ok c) :
    c.Breaks .emptyCommand ↔ i.command = "" := by
  obtain ⟨-, rfl⟩ := spec_eq_ok_iff.1 made
  rfl

/-- The zero bytes of a command are those of the invocation: a shell line has no arguments that
could be lost, and a program's own name is looked at twice. -/
theorem breaks_nulByte_iff (made : i.spec = .ok c) : c.Breaks .nulByte ↔ i.HoldsNul := by
  obtain ⟨fits, rfl⟩ := spec_eq_ok_iff.1 made
  by_cases shellLine : IsShellLine i.command
  · simp [Breaks, argumentList, HoldsNul, shellLine, fits shellLine]
  · simp [Breaks, argumentList, HoldsNul, shellLine]

/-- Of the rules for commands, only the first two can be broken. -/
theorem find?_rules (made : i.spec = .ok c) :
    rules.find? (c.Breaks ·) = [Rejection.emptyCommand, .nulByte].find? (c.Breaks ·) := by
  obtain ⟨given, missing, bare⟩ := keeps_argument_rules made
  let forText : List Rejection := [.emptyCommand, .nulByte]
  let forArguments : List Rejection := [.argvWithShellLine, .missingArgv, .emptyArgv]
  have split : rules = forText ++ forArguments := rfl
  have kept : forArguments.find? (c.Breaks ·) = none := by
    simp [forArguments, given, missing, bare]
  rw [split, List.find?_append, kept, Option.or_none]

/-- Why the classifier refuses a command from an invocation. -/
theorem classify_eq_error_iff_of_spec (made : i.spec = .ok c) {reason : Rejection} :
    c.classify = .error reason ↔
      reason = .emptyCommand ∧ i.command = "" ∨
      reason = .nulByte ∧ i.command ≠ "" ∧ i.HoldsNul := by
  have empty := breaks_emptyCommand_iff made
  have nul := breaks_nulByte_iff made
  rw [classify_eq_error_iff, find?_rules made]
  by_cases noCommand : i.command = "" <;> by_cases holds : i.HoldsNul <;>
    simp [empty, nul, noCommand, holds, eq_comm]

/-- When the classifier accepts a command from an invocation, and as what. -/
theorem classify_eq_ok_iff_of_spec (made : i.spec = .ok c) {kind : Kind} :
    c.classify = .ok kind ↔ (i.command ≠ "" ∧ ¬ i.HoldsNul) ∧ kind = kindOf i.command := by
  obtain ⟨given, missing, bare⟩ := keeps_argument_rules made
  have empty := breaks_emptyCommand_iff made
  have nul := breaks_nulByte_iff made
  have line : c.line = i.command := by rw [(spec_eq_ok_iff.1 made).2]
  rw [classify_eq_ok_iff, line]
  simp [rules, empty, nul, given, missing, bare]

/-- **The command line and the classifier agree.** The command line refuses an invocation just if it
gives arguments to a shell line.  Whatever command it makes of any other, the classifier never
complains about the argument list: it refuses the command as empty just if it is empty, and for a
zero byte just if it is not empty and it or an argument holds one.  All others it accepts, as a
shell line just if the command holds a meta character, and a path or name gets itself and then the
arguments as its argument list. -/
theorem spec_agrees (i : Invocation) :
    (∀ e, i.spec = .error e ↔ (IsShellLine i.command ∧ i.args ≠ []) ∧ e = ⟨i.command⟩) ∧
    ∀ c, i.spec = .ok c →
      (∀ reason, c.classify = .error reason ↔
        reason = .emptyCommand ∧ i.command = "" ∨
        reason = .nulByte ∧ i.command ≠ "" ∧ i.HoldsNul) ∧
      (∀ kind, c.classify = .ok kind ↔
        (i.command ≠ "" ∧ ¬ i.HoldsNul) ∧
        kind = if IsShellLine i.command then .shell
          else if '/' ∈ i.command.toList then .path else .bare) ∧
      c.line = i.command ∧ c.envv = none ∧
      c.argv = if IsShellLine i.command then none else some (i.command :: i.args) := by
  refine ⟨fun e => spec_eq_error_iff, fun c made => ?_⟩
  have named := (spec_eq_ok_iff.1 made).2
  refine ⟨fun reason => classify_eq_error_iff_of_spec made,
    fun kind => classify_eq_ok_iff_of_spec made, ?_⟩
  simp only [named, argumentList, and_self]

/-- An empty command with an argument that is not empty: the command line takes it for a program,
and the classifier refuses it as empty although the argument holds a zero byte. -/
theorem spec_agrees_of_empty_command :
    ∃ c, ({ command := "", args := ["a\x00"] } : Invocation).spec = .ok c ∧
      c.argv = some ["", "a\x00"] ∧ c.classify = .error .emptyCommand := by
  have made : ({ command := "", args := ["a\x00"] } : Invocation).spec =
      .ok (.program "" ["", "a\x00"]) := rfl
  obtain ⟨refused, -, -, -, argv⟩ := (spec_agrees _).2 _ made
  have named : ¬ IsShellLine "" := by simp [IsShellLine]
  exact ⟨_, made, argv.trans (if_neg named), (refused _).2 (.inl ⟨rfl, rfl⟩)⟩

end Coprocess.Invocation
