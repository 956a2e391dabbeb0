import Coprocess.Plan
import Coprocess.Proofs.Runs

/-!
# What a plan holds

Building a plan checks each byte string for zero bytes at the moment it is put in.  All these checks
come to one: the plan is put together first and then all its strings are looked at
(`Plan.build_eq`).  The equation is the same for each part, with the strings of that part
(`Plan.candidate_eq`, `Plan.frameFor_eq`, `Plan.strategyFor_eq`), because one such check after
another is a check of both (`Plan.checked_bind`).  So a plan that is built holds its sources as they
are (`Plan.eq_of_build_eq_ok`).

The launch tells of the search while it builds its plan, and that is the same plan
(`Plan.prepare_eq`).
-/

namespace Coprocess

open Host

/-! ### The strings of a plan -/

/-- All byte strings that a candidate hands to the system. -/
def Candidate.strings (k : Candidate) : List Bytes := k.path :: k.fallback

/-- All byte strings that a strategy hands to the system. -/
def Strategy.strings : Strategy → List Bytes
  | .shell argv => argv
  | .direct k => k.strings
  | .search ks => ks.flatMap Candidate.strings

/-- All byte strings of a frame. -/
def Frame.strings (f : Frame) : List Bytes := f.shell :: (f.argv ++ f.envv)

namespace Plan

/-- All byte strings that a plan hands to the system. -/
def strings (p : Plan) : List Bytes := p.toFrame.strings ++ p.strategy.strings

/-! ### Checking many strings at once -/

/-- A value, if certain byte strings can all be handed to the system. -/
def checked {α : Type} (a : α) (bs : List Bytes) : Except Rejection α :=
  if ∃ b ∈ bs, 0 ∈ b then .error .nulByte else .ok a

theorem checked_congr {α : Type} {a : α} {bs cs : List Bytes} (same : ∀ b, b ∈ bs ↔ b ∈ cs) :
    checked a bs = checked a cs := by
  simp only [checked, same]

/-- One check after another is a check of both. -/
theorem checked_bind {α β : Type} {a : α} {bs : List Bytes} {f : α → Except Rejection β} {b : β}
    {cs : List Bytes} (next : f a = checked b cs) :
    (checked a bs >>= f) = checked b (bs ++ cs) := by
  have both : (∃ b ∈ bs ++ cs, 0 ∈ b) ↔ (∃ b ∈ bs, 0 ∈ b) ∨ ∃ b ∈ cs, 0 ∈ b := by
    simp only [List.mem_append, or_and_right, exists_or]
  by_cases bad : ∃ b ∈ bs, 0 ∈ b
  · rw [checked, checked, if_pos bad, if_pos (both.2 (.inl bad))]
    rfl
  · simp only [checked, both, if_neg bad, or_iff_right bad]
    exact next

theorem checked_bind_pure {α β : Type} {a : α} {bs : List Bytes} (f : α → β) :
    (checked a bs >>= fun a => pure (f a)) = checked (f a) bs := by
  unfold checked
  split <;> rfl

/-- If each step of a list is a check, all of them are a check of all strings. -/
theorem mapM_checked {α β : Type} {f : α → Except Rejection β} {g : α → β}
    {strings : α → List Bytes} (h : ∀ a, f a = checked (g a) (strings a)) (as : List α) :
    as.mapM f = checked (as.map g) (as.flatMap strings) := by
  induction as with
  | nil => simp [checked, pure, Except.pure]
  | cons a as ih =>
    rw [List.mapM_cons, h, List.map_cons, List.flatMap_cons]
    refine checked_bind ?_
    rw [ih]
    exact checked_bind_pure (g a :: ·)

theorem checked_eq_ok_iff {α : Type} {a b : α} {bs : List Bytes} :
    checked a bs = .ok b ↔ b = a ∧ ∀ s ∈ bs, 0 ∉ s := by
  unfold checked
  by_cases bad : ∃ s ∈ bs, 0 ∈ s
  · rw [if_pos bad]
    obtain ⟨s, mem, zero⟩ := bad
    simp only [reduceCtorEq, false_iff, not_and]
    exact fun _ clean => clean s mem zero
  · rw [if_neg bad]
    have clean : ∀ s ∈ bs, 0 ∉ s := fun s mem zero => bad ⟨s, mem, zero⟩
    simp [eq_comm, and_iff_left clean]

theorem checked_eq_error_iff {α : Type} {a : α} {bs : List Bytes} {reason : Rejection} :
    checked a bs = .error reason ↔ reason = .nulByte ∧ ∃ s ∈ bs, 0 ∈ s := by
  unfold checked
  split
  next bad => simp [eq_comm, and_iff_left bad]
  next good => simp [good]

theorem terminated_eq (b : Bytes) : terminated b = checked b [b] := by
  simp [terminated, checked, Bytes.hasNul]

theorem mapM_terminated_eq (bs : List Bytes) : bs.mapM terminated = checked bs bs := by
  rw [mapM_checked (g := id) terminated_eq, List.map_id, List.flatMap_singleton']

/-! ### The parts -/

/-- The candidate for a path: the path itself, and the shell invocation behind it. -/
def candidateFor (exec : ExecSettings) (args : List Bytes) (path : Bytes) : Candidate :=
  { path, fallback := exec.shell :: path :: args.drop 1 }

theorem candidate_eq (path : Bytes) (args : List Bytes) (exec : ExecSettings) :
    candidate path args exec =
      checked (candidateFor exec args path) (candidateFor exec args path).strings := by
  have each : candidate path args exec =
      checked (candidateFor exec args path) ([exec.shell] ++ ([path] ++ args.drop 1)) := by
    unfold candidate
    rw [terminated_eq, terminated_eq, mapM_terminated_eq]
    exact checked_bind (checked_bind (checked_bind_pure _))
  rw [each]
  refine checked_congr fun b => ?_
  simp only [Candidate.strings, candidateFor, List.mem_append, List.mem_cons]
  tauto

/-- The arguments of a command as they are handed to the system. -/
def argumentsOf (c : Command) : List Bytes := (c.argv.getD []).map Bytes.ofText

/-- The environment that a command gets: its own entries, or those of the caller's block that are
passed on. -/
def environmentOf (c : Command) (block : List Bytes) : List Bytes :=
  match c.envv with
  | some envv => envv.map Bytes.ofText
  | none => Environment.inherited block

theorem frameFor_eq (c : Command) (exec : ExecSettings) (block : List Bytes) :
    frameFor c exec block =
      checked { shell := exec.shell, argv := argumentsOf c, envv := environmentOf c block }
        (exec.shell :: (argumentsOf c ++ environmentOf c block)) := by
  obtain ⟨line, argv, envv⟩ := c
  cases envv <;>
  · simp only [frameFor, terminated_eq, mapM_terminated_eq]
    exact checked_bind (checked_bind (checked_bind_pure _))

/-- The plan's way to the files it will try, if all that it needs can be handed to the system. -/
def strategyOf (c : Command) (kind : Command.Kind) (ctx : SearchContext) (exec : ExecSettings) :
    Strategy :=
  match kind with
  | .shell => .shell [Bytes.ofText "sh", Bytes.ofText "-c", Bytes.ofText c.line]
  | .path => .direct (candidateFor exec (argumentsOf c) (Bytes.ofText c.line))
  | .bare => .search ((Search.candidates c.line ctx exec).map (candidateFor exec (argumentsOf c)))

theorem strategyFor_eq (c : Command) (kind : Command.Kind) (ctx : SearchContext)
    (exec : ExecSettings) :
    strategyFor c kind ctx exec =
      checked (strategyOf c kind ctx exec) (strategyOf c kind ctx exec).strings := by
  cases kind with
  | shell =>
    simp only [strategyFor, mapM_terminated_eq]
    exact checked_bind_pure _
  | path =>
    simp only [strategyFor, candidate_eq]
    exact checked_bind_pure _
  | bare =>
    simp only [strategyFor, mapM_checked fun path => candidate_eq path _ exec, ← List.flatMap_map]
    exact checked_bind_pure _

/-! ### The whole -/

/-- The plan for a command, if all its strings can be handed to the system. -/
def planOf (c : Command) (kind : Command.Kind) (ctx : SearchContext) (exec : ExecSettings)
    (block : List Bytes) : Plan :=
  { shell := exec.shell, argv := argumentsOf c, envv := environmentOf c block
    strategy := strategyOf c kind ctx exec }

/-- Building a plan is checking all its strings. -/
theorem build_eq (c : Command) (kind : Command.Kind) (ctx : SearchContext) (exec : ExecSettings)
    (block : List Bytes) :
    build c kind ctx exec block =
      checked (planOf c kind ctx exec block) (planOf c kind ctx exec block).strings := by
  rw [build, frameFor_eq, strategyFor_eq]
  exact checked_bind (checked_bind_pure _)

/-- A plan that is built holds the sources as they are. -/
theorem eq_of_build_eq_ok {c : Command} {kind : Command.Kind} {ctx : SearchContext}
    {exec : ExecSettings} {block : List Bytes} {p : Plan}
    (h : build c kind ctx exec block = .ok p) : p = planOf c kind ctx exec block := by
  rw [build_eq, checked_eq_ok_iff] at h
  exact h.1

/-! ### Telling of the search -/

/-- What is told of while a plan is built: nothing if the plan fails before the search. -/
def reported (c : Command) (kind : Command.Kind) (ctx : SearchContext) (exec : ExecSettings)
    (block : List Bytes) : List Event :=
  match frameFor c exec block with
  | .ok _ => notes c kind ctx exec
  | .error _ => []

/-- The launch's way to a plan: it tells of the search and builds the plan. -/
theorem prepare_eq (c : Command) (kind : Command.Kind) (ctx : SearchContext) (exec : ExecSettings)
    (block : List Bytes) :
    prepare c kind ctx exec block =
      (tellAll (reported c kind ctx exec block)).bind fun _ =>
        .done (build c kind ctx exec block) := by
  unfold prepare build reported
  cases frameFor c exec block with
  | error reason => rfl
  | ok f =>
    simp only [Program.bind_eq, Program.pure_eq]
    cases strategyFor c kind ctx exec <;> rfl

theorem yields_tellAll_iff {es : List Event} {t : List Exchange} {u : Unit} :
    (tellAll es).Yields t u ↔ t = es.map fun e => .reply (.log e) () := by
  induction es generalizing t with
  | nil => exact Program.yields_done_iff.trans (and_iff_left rfl)
  | cons e es ih =>
    constructor
    · intro run
      obtain ⟨_, t, rfl, rest⟩ := Program.yields_call_iff.1 run
      rw [List.map_cons, ih.1 rest]
    · rintro rfl
      exact .call (ih.2 rfl)

end Plan

end Coprocess
