import Coprocess.Proofs.Contract
import Coprocess.Proofs.Expansion
import Coprocess.Proofs.Plans

/-!
# Which plans can be built

A plan is built just if none of its strings holds a zero byte (`Plan.build_eq`).  For a command that
the classifier accepts most of the strings are known to be free of them.  What is left are the shell
of the settings and the entries of the list of directories, and of those only the ones whose
candidate fits, since the others never get into the plan (`Plan.exists_zero_mem_strings_iff`).

Main statement:
* `Plan.build_decided`: when a plan is built for an accepted command, and what it holds.
-/

namespace Coprocess

namespace Plan

/-! ### Where a zero byte can be -/

theorem zero_mem_ofText_iff {s : String} : 0 ∈ Bytes.ofText s ↔ '\x00' ∈ s.toList :=
  Bytes.toUInt8_mem_ofText_iff (a := '\x00') (by decide)

theorem zero_mem_candidateIn_iff {name entry : Bytes} (clean : 0 ∉ name) :
    0 ∈ Search.candidateIn name entry ↔ 0 ∈ entry := by
  cases entry <;> simp [Search.candidateIn, clean]

/-- An accepted command has no zero byte in anything that it hands to the system. -/
theorem clean_of_classify {c : Command} {kind : Command.Kind} (accepted : c.classify = .ok kind)
    {block : List Bytes} (clean : ∀ e ∈ block, 0 ∉ e) :
    0 ∉ Bytes.ofText c.line ∧ (∀ a ∈ argumentsOf c, 0 ∉ a) ∧
      ∀ e ∈ environmentOf c block, 0 ∉ e := by
  have kept := (Command.classify_eq_ok_iff.1 accepted).1 .nulByte (by simp [Command.rules])
  simp only [Command.Breaks, not_or, not_exists, not_and] at kept
  obtain ⟨line, argv, envv⟩ := kept
  refine ⟨mt zero_mem_ofText_iff.1 line, fun a mem => ?_, fun e mem => ?_⟩
  · obtain ⟨a, given, rfl⟩ := List.mem_map.1 mem
    exact mt zero_mem_ofText_iff.1 (argv a given)
  · unfold environmentOf at mem
    split at mem
    next entries own =>
      obtain ⟨e, given, rfl⟩ := List.mem_map.1 mem
      exact mt zero_mem_ofText_iff.1 (envv e (by simpa [own] using given))
    next =>
      rw [Environment.inherited_eq_filter] at mem
      exact clean e (List.mem_of_mem_filter mem)

/-- If the shell and the arguments hold no zero byte, a candidate has one only in its path. -/
theorem exists_zero_mem_candidateFor_iff {exec : ExecSettings} {args : List Bytes}
    (shell : 0 ∉ exec.shell) (argv : ∀ a ∈ args, 0 ∉ a) (path : Bytes) :
    (∃ s ∈ (candidateFor exec args path).strings, 0 ∈ s) ↔ 0 ∈ path := by
  have rest : ¬ ∃ a ∈ args.drop 1, 0 ∈ a := fun ⟨a, mem, zero⟩ =>
    argv a (List.mem_of_mem_drop mem) zero
  simp only [Candidate.strings, candidateFor, List.mem_cons, or_and_right, exists_or,
    exists_eq_left, shell, rest, false_or, or_false, or_self]

/-- A candidate with a zero byte comes from an entry with one, which fits. -/
theorem exists_zero_mem_candidates_iff {c : Command} {ctx : SearchContext} {exec : ExecSettings}
    (line : 0 ∉ Bytes.ofText c.line) :
    (∃ path ∈ Search.candidates c.line ctx exec, 0 ∈ path) ↔
      ∃ entry ∈ List.splitOn 0x3A (ctx.effectivePath exec),
        0 ∈ entry ∧
          (Search.candidateIn (Bytes.ofText c.line) entry).length + 1 ≤ ctx.pathLimit := by
  constructor
  · rintro ⟨_, made, zero⟩
    obtain ⟨entry, mem, fits, rfl⟩ := Search.mem_candidates_iff.1 made
    exact ⟨entry, mem, (zero_mem_candidateIn_iff line).1 zero, fits⟩
  · rintro ⟨entry, mem, zero, fits⟩
    have made := Search.mem_candidates_iff.2 ⟨entry, mem, fits, rfl⟩
    exact ⟨_, made, (zero_mem_candidateIn_iff line).2 zero⟩

/-- If the shell, the line and the arguments hold no zero byte, a strategy has one only in the
candidates of a name. -/
theorem exists_zero_mem_strategyOf_iff {c : Command} {kind : Command.Kind} {ctx : SearchContext}
    {exec : ExecSettings} (shell : 0 ∉ exec.shell) (line : 0 ∉ Bytes.ofText c.line)
    (argv : ∀ a ∈ argumentsOf c, 0 ∉ a) :
    (∃ s ∈ (strategyOf c kind ctx exec).strings, 0 ∈ s) ↔
      kind = .bare ∧ ∃ path ∈ Search.candidates c.line ctx exec, 0 ∈ path := by
  have candidate := exists_zero_mem_candidateFor_iff shell argv
  cases kind with
  | shell =>
    have sh : 0 ∉ Bytes.ofText "sh" := by decide
    have dashC : 0 ∉ Bytes.ofText "-c" := by decide
    simp [strategyOf, Strategy.strings, sh, dashC, line]
  | path => simpa [strategyOf, Strategy.strings, line] using candidate (Bytes.ofText c.line)
  | bare =>
    simp only [strategyOf, Strategy.strings, List.flatMap_map, List.mem_flatMap, true_and]
    constructor
    · rintro ⟨s, ⟨path, mem, hs⟩, zero⟩
      exact ⟨path, mem, (candidate path).1 ⟨s, hs, zero⟩⟩
    · rintro ⟨path, mem, zero⟩
      obtain ⟨s, hs, zero⟩ := (candidate path).2 zero
      exact ⟨s, ⟨path, mem, hs⟩, zero⟩

/-- A zero byte in a plan for an accepted command is in the shell or in an entry that has a
candidate. -/
theorem exists_zero_mem_strings_iff {c : Command} {kind : Command.Kind} {ctx : SearchContext}
    {exec : ExecSettings} {block : List Bytes} (accepted : c.classify = .ok kind)
    (clean : ∀ e ∈ block, 0 ∉ e) :
    (∃ s ∈ (planOf c kind ctx exec block).strings, 0 ∈ s) ↔
      0 ∈ exec.shell ∨ kind = .bare ∧ ∃ entry ∈ List.splitOn 0x3A (ctx.effectivePath exec),
        0 ∈ entry ∧
          (Search.candidateIn (Bytes.ofText c.line) entry).length + 1 ≤ ctx.pathLimit := by
  obtain ⟨line, argv, envv⟩ := clean_of_classify accepted clean
  by_cases shell : 0 ∈ exec.shell
  · exact iff_of_true ⟨exec.shell, by simp [strings, Frame.strings, planOf], shell⟩ (.inl shell)
  -- The frame is clean, so a zero byte is among the strings of the strategy.
  have frame : ¬ ∃ s ∈ (planOf c kind ctx exec block).toFrame.strings, 0 ∈ s := by
    rintro ⟨s, mem, zero⟩
    obtain rfl | mem | mem : s = exec.shell ∨ s ∈ argumentsOf c ∨ s ∈ environmentOf c block := by
      simpa [Frame.strings, planOf] using mem
    exacts [shell zero, argv s mem zero, envv s mem zero]
  simp only [strings, List.mem_append, or_and_right, exists_or, or_iff_right frame,
    or_iff_right shell]
  rw [← exists_zero_mem_candidates_iff line]
  exact exists_zero_mem_strategyOf_iff shell line argv

/-! ### When a plan is built -/

/-- **When a plan can be built.** For a command that the classifier accepts, in a process whose
environment block holds no zero byte, no plan is built just if the shell of the settings holds one,
or the command is a name and an entry of the list of directories holds one whose candidate fits.
The reason given is then the zero byte.  A plan that is built holds none, and its strings are those
of the command, the settings and the environment, unchanged and in their order. -/
theorem build_decided {c : Command} {kind : Command.Kind} {ctx : SearchContext}
    {exec : ExecSettings} {block : List Bytes} (accepted : c.classify = .ok kind)
    (clean : ∀ e ∈ block, 0 ∉ e) :
    ((∃ reason, build c kind ctx exec block = .error reason) ↔
      0 ∈ exec.shell ∨ kind = .bare ∧ ∃ entry ∈ List.splitOn 0x3A (ctx.effectivePath exec),
        0 ∈ entry ∧
          (Search.candidateIn (Bytes.ofText c.line) entry).length + 1 ≤ ctx.pathLimit) ∧
    (∀ reason, build c kind ctx exec block = .error reason → reason = .nulByte) ∧
    ∀ p, build c kind ctx exec block = .ok p →
      (∀ s ∈ p.strings, 0 ∉ s) ∧
      p.shell = exec.shell ∧
      p.argv = (c.argv.getD []).map Bytes.ofText ∧
      p.envv = (match c.envv with
        | some entries => entries.map Bytes.ofText
        | none => block.filter fun e => 0x3D ∈ e.tail) ∧
      p.strategy = (match kind with
        | .shell => .shell [Bytes.ofText "sh", Bytes.ofText "-c", Bytes.ofText c.line]
        | .path => .direct
          { path := Bytes.ofText c.line
            fallback := exec.shell :: Bytes.ofText c.line :: p.argv.drop 1 }
        | .bare => .search ((Search.candidates c.line ctx exec).map fun path =>
          { path, fallback := exec.shell :: path :: p.argv.drop 1 })) := by
  rw [build_eq]
  simp only [checked_eq_error_iff, checked_eq_ok_iff]
  refine ⟨?_, fun reason failed => failed.1, ?_⟩
  · rw [← exists_zero_mem_strings_iff accepted clean]
    exact ⟨fun ⟨_, _, zero⟩ => zero, fun zero => ⟨_, rfl, zero⟩⟩
  · rintro p ⟨rfl, clean⟩
    refine ⟨clean, rfl, rfl, ?_, ?_⟩
    · change environmentOf c block = _
      unfold environmentOf
      cases c.envv with
      | some entries => rfl
      | none => simp only [Environment.inherited_eq_filter, Environment.isSome_split]
    · cases kind <;> rfl

/-- A list of directories with a zero byte in its second entry: no plan is built where the candidate
of that entry fits, and one is built where it does not. -/
theorem build_decided_of_zero_entry :
    (∃ reason, build (.program "tool" ["tool"]) .bare
        ⟨some (Bytes.ofText "/opt:/far\x00away"), false, 20⟩ {} [Bytes.ofText "A=1"] =
        .error reason) ∧
    ¬ ∃ reason, build (.program "tool" ["tool"]) .bare
        ⟨some (Bytes.ofText "/opt:/far\x00away"), false, 10⟩ {} [Bytes.ofText "A=1"] =
        .error reason := by
  have accepted : (Command.program "tool" ["tool"]).classify = .ok .bare := by decide
  have clean : ∀ e ∈ [Bytes.ofText "A=1"], 0 ∉ e := by decide
  constructor
  · exact (build_decided accepted clean).1.2 (.inr ⟨rfl, Bytes.ofText "/far\x00away",
      by decide, by decide, by decide⟩)
  · rw [(build_decided accepted clean).1]
    decide

end Plan

end Coprocess
