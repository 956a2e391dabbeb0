import Coprocess.Proofs.Expansion
import Coprocess.Proofs.Plans
import Coprocess.Proofs.Runs
import Coprocess.Shell.Start

/-!
# Files run as scripts

A file without a header is given to the shell as `[shell, path, argv[1..]...]`.  The shell looks at
its arguments from the left and takes what begins with `-` or `+` for options, so the path is its
script just if it does not begin so (`Shell.takesScript_iff`).  Nothing keeps such a path out of a
plan: both signs are plain characters to the classifier, and a list of directories can hold any
bytes.  What a path begins with is what the command begins with if it is a path or stands alone in
the current directory, and otherwise what the entry begins with.

Main statements:
* `Plan.scripts_taken`: which candidates the shell runs as scripts, and where the others come from;
* `Plan.not_forall_script_taken`: a file in the current directory whose name begins with `-` is not
  run.
-/

namespace Coprocess

open Host

/-! ### What a shell makes of its arguments -/

namespace Host.Program

/-- The program comes to ask for the file, whatever it is answered, and it asks for no file
before. -/
def OpensFirst (file : Bytes) : {α : Type} → Program α → Prop
  | _, done _ => False
  | _, call c next => (∃ mode, c = .openFile file mode) ∨
      (∀ path mode, c ≠ .openFile path mode) ∧ ∀ r, (next r).OpensFirst file
  | _, fork _ _ => False
  | _, spawn _ _ => False
  | _, loop _ body next => (∀ s, (body s).Only fun c => ∀ path mode, c ≠ .openFile path mode) ∧
      ∀ b, (next b).OpensFirst file

/-- What opens nothing can come before. -/
theorem OpensFirst.bind {α β : Type} {file : Bytes} {p : Program α} {f : α → Program β}
    (first : p.Only fun c => ∀ path mode, c ≠ .openFile path mode)
    (second : ∀ a, (f a).OpensFirst file) : (p.bind f).OpensFirst file := by
  induction p with
  | done a => exact second a
  | call c next ih => exact .inr ⟨first.1, fun r => ih r (first.2 r) second⟩
  | fork => exact first.elim
  | spawn => exact first.elim
  | loop s body next _ ih => exact ⟨first.1, fun b => ih b (first.2 b) second⟩

end Host.Program

namespace Shell

/-- An argument that looks like options to a shell. -/
def BeginsAsOption (arg : Bytes) : Prop := arg.head? = some 0x2D ∨ arg.head? = some 0x2B

/-- With these arguments a shell reads no option, takes the commands from the file and has the
parameters. -/
def TakesScript (argv : List Bytes) (file : Bytes) (params : List Bytes) : Prop :=
  ∀ o, startOptions o false false (argv.drop 1) = .ok (o, false, false, file :: params)

theorem isOption_iff {arg : Bytes} : isOption arg = true ↔ BeginsAsOption arg := by
  simp [isOption, BeginsAsOption]

/-- What is left when the options are read is the end of the arguments. -/
theorem suffix_of_startOptions {o o' : Options} {c i c' i' : Bool} {args rest : List Bytes}
    (h : startOptions o c i args = .ok (o', c', i', rest)) : rest <:+ args := by
  induction args generalizing o c i with
  | nil =>
    cases h
    exact List.suffix_rfl
  | cons arg args ih =>
    rw [startOptions] at h
    split at h
    · cases h
      exact List.suffix_cons _ _
    split at h
    · cases h
      exact List.suffix_rfl
    · simp only at h
      split at h
      · exact (ih h).trans (List.suffix_cons _ _)
      · cases h

/-- A first argument that does not look like options ends them. -/
theorem startOptions_of_operand {arg : Bytes} (operand : ¬ BeginsAsOption arg) (o : Options)
    (c i : Bool) (args : List Bytes) :
    startOptions o c i (arg :: args) = .ok (o, c, i, arg :: args) := by
  have plain : isOption arg = false := Bool.eq_false_iff.2 (mt isOption_iff.1 operand)
  have noEnd : (arg == raw "--" || arg == raw "-") = false := by
    rw [Bool.eq_false_iff]
    intro h
    rcases Bool.or_eq_true_iff.1 h with h | h <;>
    · rw [eq_of_beq h] at operand
      exact operand (.inl rfl)
  rw [startOptions, noEnd, plain]
  rfl

/-- A first argument that looks like options is not left over. -/
theorem suffix_of_startOptions_cons {arg : Bytes} (sign : BeginsAsOption arg) {o o' : Options}
    {c i c' i' : Bool} {args rest : List Bytes}
    (h : startOptions o c i (arg :: args) = .ok (o', c', i', rest)) : rest <:+ args := by
  rw [startOptions, isOption_iff.2 sign] at h
  split at h
  · cases h
    exact List.suffix_rfl
  · simp only [Bool.not_true, Bool.false_eq_true, if_false] at h
    split at h
    · exact suffix_of_startOptions h
    · cases h

theorem takesScript_iff {shell file : Bytes} {params : List Bytes} :
    TakesScript (shell :: file :: params) file params ↔ ¬ BeginsAsOption file := by
  constructor
  · intro taken sign
    have shorter := (suffix_of_startOptions_cons sign (taken {})).length_le
    exact Nat.not_succ_le_self _ shorter
  · exact fun operand o => startOptions_of_operand operand o false false params

/-- To find out where it stands a shell only looks at paths and asks for its directory. -/
theorem startPlace_only {P : Call → Prop} (ofInfo : ∀ path follow, P (.fileInfo path follow))
    (ofPlace : P .workingDirectory) (s : State) : (startPlace s).Only P := by
  have looks (path : Bytes) : (Program.request (.fileInfo path true)).Only P :=
    ⟨ofInfo _ _, fun _ => trivial⟩
  have asks : (Program.request .workingDirectory).Only P := ⟨ofPlace, fun _ => trivial⟩
  rw [startPlace]
  split
  · refine (looks _).bind fun there => (looks _).bind fun here => ?_
    split
    · split
      · exact trivial
      · exact asks
    · exact asks
  · exact asks

/-- A shell that takes a script opens it first. -/
theorem opensFirst_of_takesScript {argv : List Bytes} {file : Bytes} {params : List Bytes}
    (taken : TakesScript argv file params) (envv : List Bytes) :
    (main argv envv).OpensFirst file := by
  have opensNothing (s : State) :
      (startPlace s).Only fun c => ∀ path mode, c ≠ .openFile path mode :=
    startPlace_only (by simp) (by simp) s
  refine .bind ⟨by simp, fun _ => trivial⟩ fun pid => ?_
  refine .bind ⟨by simp, fun _ => trivial⟩ fun parent => ?_
  refine .bind (opensNothing _) fun place => ?_
  dsimp only
  rw [taken]
  exact .inl ⟨_, rfl⟩

end Shell

/-! ### The scripts of a plan -/

/-- The files that a strategy has a shell invocation for. -/
def Strategy.candidates : Strategy → List Candidate
  | .shell _ => []
  | .direct k => [k]
  | .search ks => ks

namespace Plan

/-- A candidate's own invocation names its path after the shell. -/
theorem fallback_of_mem_candidates {c : Command} {kind : Command.Kind} {ctx : SearchContext}
    {exec : ExecSettings} {k : Candidate} (mem : k ∈ (strategyOf c kind ctx exec).candidates) :
    k.fallback = exec.shell :: k.path :: (argumentsOf c).drop 1 := by
  cases kind with
  | shell => cases mem
  | path =>
    obtain rfl := List.mem_singleton.1 mem
    rfl
  | bare =>
    obtain ⟨path, -, rfl⟩ := List.mem_map.1 mem
    rfl

/-- The path of a name begins as its entry does, or as the name if the entry is empty. -/
theorem beginsAsOption_candidateIn {name entry : Bytes} :
    Shell.BeginsAsOption (Search.candidateIn name entry) ↔
      Shell.BeginsAsOption (if entry = [] then name else entry) := by
  cases entry <;> simp [Search.candidateIn, Shell.BeginsAsOption]

/-- Where the paths come from that look like options. -/
theorem exists_beginsAsOption_iff {c : Command} {kind : Command.Kind} {ctx : SearchContext}
    {exec : ExecSettings} :
    (∃ k ∈ (strategyOf c kind ctx exec).candidates, Shell.BeginsAsOption k.path) ↔
      kind = .path ∧ Shell.BeginsAsOption (Bytes.ofText c.line) ∨
      kind = .bare ∧ ∃ entry ∈ List.splitOn 0x3A (ctx.effectivePath exec),
        (Search.candidateIn (Bytes.ofText c.line) entry).length + 1 ≤ ctx.pathLimit ∧
        Shell.BeginsAsOption (if entry = [] then Bytes.ofText c.line else entry) := by
  cases kind with
  | shell => simp [strategyOf, Strategy.candidates]
  | path => simp [strategyOf, Strategy.candidates, candidateFor]
  | bare =>
    simp only [strategyOf, Strategy.candidates, ← beginsAsOption_candidateIn, reduceCtorEq,
      false_and, false_or, true_and]
    constructor
    · rintro ⟨k, mem, sign⟩
      obtain ⟨path, made, rfl⟩ := List.mem_map.1 mem
      obtain ⟨entry, listed, fits, rfl⟩ := Search.mem_candidates_iff.1 made
      exact ⟨entry, listed, fits, sign⟩
    · rintro ⟨entry, listed, fits, sign⟩
      have made := Search.mem_candidates_iff.2 ⟨entry, listed, fits, rfl⟩
      exact ⟨_, List.mem_map_of_mem made, sign⟩

/-- **Which files a shell runs as scripts.** The shell behind a candidate of a plan takes the
candidate's path as its script and the arguments after the first as its parameters just if the path
does not begin with `-` or `+`, and then the file is the first that it opens.  A path begins so if
the command does, which is then a path or stands in an empty entry, or if an entry does. -/
theorem scripts_taken {c : Command} {kind : Command.Kind} {ctx : SearchContext}
    {exec : ExecSettings} {block : List Bytes} {p : Plan}
    (built : build c kind ctx exec block = .ok p) :
    (∀ k ∈ p.strategy.candidates,
      k.fallback = p.shell :: k.path :: p.argv.drop 1 ∧
      (Shell.TakesScript k.fallback k.path (p.argv.drop 1) ↔ ¬ Shell.BeginsAsOption k.path) ∧
      (¬ Shell.BeginsAsOption k.path →
        ∀ envv, (Shell.main k.fallback envv).OpensFirst k.path)) ∧
    ((∃ k ∈ p.strategy.candidates, Shell.BeginsAsOption k.path) ↔
      kind = .path ∧ Shell.BeginsAsOption (Bytes.ofText c.line) ∨
      kind = .bare ∧ ∃ entry ∈ List.splitOn 0x3A (ctx.effectivePath exec),
        (Search.candidateIn (Bytes.ofText c.line) entry).length + 1 ≤ ctx.pathLimit ∧
        Shell.BeginsAsOption (if entry = [] then Bytes.ofText c.line else entry)) := by
  obtain rfl := eq_of_build_eq_ok built
  refine ⟨fun k mem => ?_, exists_beginsAsOption_iff⟩
  have invoked := fallback_of_mem_candidates mem
  have taken : Shell.TakesScript k.fallback k.path ((argumentsOf c).drop 1) ↔
      ¬ Shell.BeginsAsOption k.path := by
    rw [invoked]
    exact Shell.takesScript_iff
  exact ⟨invoked, taken, fun operand => Shell.opensFirst_of_takesScript (taken.2 operand)⟩

/-- With the directories `/opt` and `-d` a shell takes the first candidate as its script and the
second for options. -/
theorem scripts_taken_of_signed_entry :
    ∃ p, build (.program "tool" ["tool", "x"]) .bare ⟨some (Bytes.ofText "/opt:-d"), false, 4096⟩
        {} [] = .ok p ∧
      (∃ k ∈ p.strategy.candidates, k.path = Bytes.ofText "/opt/tool" ∧
        Shell.TakesScript k.fallback k.path [Bytes.ofText "x"]) ∧
      ∃ k ∈ p.strategy.candidates, k.path = Bytes.ofText "-d/tool" ∧
        ¬ Shell.TakesScript k.fallback k.path [Bytes.ofText "x"] := by
  let ctx : SearchContext := ⟨some (Bytes.ofText "/opt:-d"), false, 4096⟩
  have built : build (.program "tool" ["tool", "x"]) .bare ctx {} [] =
      .ok (planOf (.program "tool" ["tool", "x"]) .bare ctx {} []) := rfl
  have taken := fun k mem => ((scripts_taken built).1 k mem).2.1
  refine ⟨_, built, ⟨_, .head _, rfl, (taken _ (.head _)).2 ?_⟩,
    ⟨_, .tail _ (.head _), rfl, fun script => (taken _ (.tail _ (.head _))).1 script ?_⟩⟩
  · rintro (h | h) <;> cases h
  · exact .inl rfl

/-- A file in the current directory whose name begins with `-` is not run: its name is accepted, a
plan for it is built, and the shell behind the candidate takes the name for options. -/
theorem not_forall_script_taken :
    ¬ ∀ (c : Command) (kind : Command.Kind) (ctx : SearchContext) (exec : ExecSettings)
        (block : List Bytes) (p : Plan),
      c.classify = .ok kind → kind ≠ .shell → build c kind ctx exec block = .ok p →
      ∀ k ∈ p.strategy.candidates, Shell.TakesScript k.fallback k.path (p.argv.drop 1) := by
  intro always
  have taken := always (.program "-e" ["-e"]) .bare ⟨some [], false, 4096⟩ {} [] _ (by decide)
    (by decide) rfl _ (List.mem_singleton_self _)
  exact Shell.takesScript_iff.1 taken (.inl rfl)

end Plan

end Coprocess
