import Coprocess.Launch
import Coprocess.Proofs.Admission

/-!
# What a launch takes into account

Four sources of a list of directories, a limit on paths and an environment go into the preparation
of a launch, but not every plan depends on all of them.  A line for the shell and a path depend on
none.  A name depends on the list that is in force and on the limit, and where that list was given,
by the launcher or by the caller's `PATH`, privilege and the two built-in lists play no part.  The
environment the command itself gets is handed over with each request and decides nothing else, even
if it has a `PATH` of its own.

These are statements about two preparations at a time, `Preparation.Agree`: they come to the same
strategy or fail for the same reason, and the children try the same files with the same arguments.
The main statement is `Preparation.independent`.
-/

namespace Coprocess

open Host Program

/-! ### The runs of a preparation -/

namespace Launcher

/-- The context of a search, by what the host says of the caller. -/
def contextOf (l : Launcher) (block : List Bytes) (privileged : Bool)
    (reported : Except Errno (Option Int)) : SearchContext where
  searchPath := l.searchPath <|> Environment.valueOf "PATH" block
  privileged
  pathLimit := pathLimitOf reported

/-- What the preparation of a launch comes to, once the context of the search is known. -/
def planned (l : Launcher) (c : Command) (kind : Command.Kind) (ctx : SearchContext)
    (block : List Bytes) : Except Failure (Command.Kind × Plan) :=
  match Plan.build c kind ctx l.exec block with
  | .error reason => .error (.rejected reason)
  | .ok plan => .ok (kind, plan)

/-- **The runs of a preparation.** A command that is refused is refused before anything is asked
for.  Otherwise the host is asked for the context of the search, the search is told of, and the plan
is built. -/
theorem yields_plan_iff {l : Launcher} {c : Command} {block : List Bytes} {t : List Exchange}
    {r : Except Failure (Command.Kind × Plan)} :
    (l.plan c block).Yields t r ↔
      (∃ reason, c.classify = .error reason ∧ t = [] ∧ r = .error (.rejected reason)) ∨
      ∃ kind privileged reported, c.classify = .ok kind ∧
        t = .reply .isPrivileged privileged :: .reply (.pathLimit (Bytes.ofText "/")) reported ::
          (Plan.reported c kind (l.contextOf block privileged reported) l.exec block).map
            (fun e => .reply (.log e) ()) ∧
        r = l.planned c kind (l.contextOf block privileged reported) block := by
  unfold plan
  cases classified : c.classify with
  | error reason => simp
  | ok kind =>
    have search (ctx : SearchContext) (t : List Exchange) :
        ((Plan.prepare c kind ctx l.exec block).bind fun planned => match planned with
          | .error reason => .done (.error (.rejected reason))
          | .ok plan => .done (.ok (kind, plan))).Yields t r ↔
        t = (Plan.reported c kind ctx l.exec block).map (fun e => .reply (.log e) ()) ∧
          r = l.planned c kind ctx block := by
      rw [Plan.prepare_eq, Program.bind_assoc, yields_bind_iff, planned]
      simp only [done_bind, Plan.yields_tellAll_iff]
      cases Plan.build c kind ctx l.exec block <;> simp
    constructor
    · intro run
      obtain ⟨privileged, _, rfl, asked⟩ := yields_call_iff.1 run
      obtain ⟨reported, _, rfl, built⟩ := yields_call_iff.1 asked
      obtain ⟨rfl, rfl⟩ := (search (l.contextOf block privileged reported) _).1 built
      exact .inr ⟨kind, privileged, reported, rfl, rfl, rfl⟩
    · rintro (⟨_, ⟨⟩, -⟩ | ⟨_, privileged, reported, ⟨⟩, rfl, rfl⟩)
      exact .call (.call ((search (l.contextOf block privileged reported) _).2 ⟨rfl, rfl⟩))

end Launcher

/-! ### What a child tries -/

/-- A request for an image that failed, without the environment that it was made with. -/
def Host.Exchange.tried? : Exchange → Option (Bytes × List Bytes × Errno)
  | .reply (.execute path argv _) reason => some (path, argv, reason)
  | _ => none

/-- The same exchange, if images were asked for with another environment. -/
def Host.Exchange.under (envv : List Bytes) : Exchange → Exchange
  | .reply (.execute path argv _) reason => .reply (.execute path argv envv) reason
  | x => x

theorem Host.Exchange.tried?_under (envv : List Bytes) (x : Exchange) :
    (x.under envv).tried? = x.tried? := by
  unfold under
  split <;> rfl

namespace Plan

/-- After these failed attempts, the child tries the file at `path` with the arguments `argv`. -/
def Tries (p : Plan) (before : List (Bytes × List Bytes × Errno)) (path : Bytes)
    (argv : List Bytes) : Prop :=
  ∃ t, p.run.Asks t (.execute path argv p.envv) ∧ t.filterMap Exchange.tried? = before

variable {p q : Plan} {t : List Exchange} {path : Bytes} {argv : List Bytes}

/-- One attempt and what is tried when it fails: with another environment, the same. -/
theorem asks_attempt_under (envv : List Bytes) {first : Bytes} {arguments : List Bytes}
    {next next' : Errno → Program Unit}
    (onward : ∀ reason t, (next reason).Asks t (.execute path argv p.envv) →
      (next' reason).Asks (t.map (·.under envv)) (.execute path argv envv))
    (asks : (Program.call (.execute first arguments p.envv) next).Asks t
      (.execute path argv p.envv)) :
    (Program.call (.execute first arguments envv) next').Asks (t.map (·.under envv))
      (.execute path argv envv) := by
  rcases asks_call_iff.1 asks with ⟨rfl, same⟩ | ⟨reason, t, rfl, later⟩
  · cases same
    exact .here
  · exact .call (onward reason t later)

/-- What is tried after a failure is the shell, once, or whatever else is to come. -/
theorem asks_fallback_under (envv : List Bytes) {reason : Errno} {fallback : List Bytes}
    {rest rest' : Program Unit}
    (onward : rest.Asks t (.execute path argv p.envv) →
      rest'.Asks (t.map (·.under envv)) (.execute path argv envv))
    (asks : (if reason == .ENOEXEC then do
        let _ ← Program.request (.execute p.shell fallback p.envv)
      else rest).Asks t (.execute path argv p.envv)) :
    (if reason == .ENOEXEC then do
        let _ ← Program.request (.execute p.shell fallback envv)
      else rest').Asks (t.map (·.under envv)) (.execute path argv envv) := by
  by_cases headerless : (reason == .ENOEXEC) = true
  · rw [if_pos headerless] at asks ⊢
    exact asks_attempt_under envv (fun _ _ later => absurd later not_asks_done) asks
  · rw [if_neg headerless] at asks ⊢
    exact onward asks

theorem asks_tryEach_under (envv : List Bytes) {candidates : List Candidate}
    (asks : (p.tryEach candidates).Asks t (.execute path argv p.envv)) :
    (tryEach { p with envv } candidates).Asks (t.map (·.under envv))
      (.execute path argv envv) := by
  induction candidates generalizing t with
  | nil => exact absurd asks not_asks_done
  | cons k rest ih =>
    exact asks_attempt_under envv (fun _ _ => asks_fallback_under (p := p) envv ih) asks

/-- **The environment of a plan decides nothing of what is tried**: each request of the child is
also made with any other environment, in its place. -/
theorem asks_run_under (envv : List Bytes) (asks : p.run.Asks t (.execute path argv p.envv)) :
    (run { p with envv }).Asks (t.map (·.under envv)) (.execute path argv envv) := by
  have attempts {t : List Exchange} (asks : p.attempts.Asks t (.execute path argv p.envv)) :
      (attempts { p with envv }).Asks (t.map (·.under envv)) (.execute path argv envv) := by
    have nothing {t : List Exchange} (asks : (done ()).Asks t (.execute path argv p.envv)) :
        (done ()).Asks (t.map (·.under envv)) (.execute path argv envv) :=
      absurd asks not_asks_done
    obtain ⟨frame, strategy⟩ := p
    cases strategy with
    | shell _ => exact asks_attempt_under envv (fun _ _ => nothing) asks
    | direct k =>
      exact asks_attempt_under envv
        (fun _ _ => asks_fallback_under (p := ⟨frame, .direct k⟩) envv nothing) asks
    | search candidates => exact asks_tryEach_under envv asks
  rcases asks_call_iff.1 asks with ⟨-, ⟨⟩⟩ | ⟨disposition, t, rfl, asked⟩
  refine .call ?_
  change (p.attempts.bind fun _ => .exit _).Asks _ _ at asked
  rcases asks_bind_iff.1 asked with first | ⟨_, _, _, _, _, last⟩
  · exact (attempts first).bind_left
  · rcases asks_call_iff.1 last with ⟨_, ⟨⟩⟩ | ⟨⟨⟩, _⟩

/-- Plans that differ in their environment only try the same. -/
theorem tries_iff_of_eq (shell : p.shell = q.shell) (arguments : p.argv = q.argv)
    (strategy : p.strategy = q.strategy) (before : List (Bytes × List Bytes × Errno))
    (path : Bytes) (argv : List Bytes) : p.Tries before path argv ↔ q.Tries before path argv := by
  have tried (t : List Exchange) (envv : List Bytes) :
      (t.map (·.under envv)).filterMap Exchange.tried? = t.filterMap Exchange.tried? := by
    rw [List.filterMap_map]
    exact congrArg (t.filterMap ·) (funext (Exchange.tried?_under envv))
  obtain ⟨⟨_, _, own⟩, _⟩ := p
  obtain ⟨⟨_, _, other⟩, _⟩ := q
  obtain ⟨rfl, rfl, rfl⟩ : _ = _ ∧ _ = _ ∧ _ = _ := ⟨shell, arguments, strategy⟩
  constructor
  · rintro ⟨t, asks, rfl⟩
    exact ⟨_, asks_run_under other asks, tried t other⟩
  · rintro ⟨t, asks, rfl⟩
    exact ⟨_, asks_run_under own asks, tried t own⟩

/-- The strategy depends on the line, the arguments and the shell, and for a name on the list of
directories in force and on the limit. -/
theorem strategyOf_congr {c c' : Command} {kind : Command.Kind} {ctx ctx' : SearchContext}
    {exec exec' : ExecSettings} (line : c.line = c'.line) (arguments : c.argv = c'.argv)
    (shell : exec.shell = exec'.shell)
    (search : kind = .bare →
      ctx.effectivePath exec = ctx'.effectivePath exec' ∧ ctx.pathLimit = ctx'.pathLimit) :
    strategyOf c kind ctx exec = strategyOf c' kind ctx' exec' := by
  have candidates : candidateFor exec (argumentsOf c) = candidateFor exec' (argumentsOf c') := by
    funext path
    rw [candidateFor, candidateFor, argumentsOf, argumentsOf, shell, arguments]
  cases kind with
  | shell => rw [strategyOf, strategyOf, line]
  | path => simp only [strategyOf, candidates, line]
  | bare =>
    obtain ⟨path, limit⟩ := search rfl
    have fits : ctx.fits = ctx'.fits := by
      funext path
      rw [SearchContext.fits, SearchContext.fits, limit]
    simp only [strategyOf, Search.candidates, Search.expansions, candidates, line, path, fits]

/-- What a built plan tries, or why there is none: that is decided without the environment, if that
is no reason to fail. -/
theorem map_strategy_build_eq {c c' : Command} {kind : Command.Kind} {ctx ctx' : SearchContext}
    {exec exec' : ExecSettings} {block block' : List Bytes} (arguments : c.argv = c'.argv)
    (shell : exec.shell = exec'.shell)
    (strategy : strategyOf c kind ctx exec = strategyOf c' kind ctx' exec')
    (environment : (∃ e ∈ environmentOf c block, 0 ∈ e) ↔ ∃ e ∈ environmentOf c' block', 0 ∈ e) :
    (build c kind ctx exec block).map Plan.strategy =
      (build c' kind ctx' exec' block').map Plan.strategy := by
  have zero : (∃ s ∈ (planOf c kind ctx exec block).strings, 0 ∈ s) ↔
      ∃ s ∈ (planOf c' kind ctx' exec' block').strings, 0 ∈ s := by
    have same : argumentsOf c = argumentsOf c' := by rw [argumentsOf, argumentsOf, arguments]
    simp only [strings, Frame.strings, planOf, List.mem_append, List.mem_cons, or_and_right,
      exists_or, shell, same, strategy, environment]
  rw [build_eq, build_eq]
  simp only [checked, zero]
  split
  · rfl
  · exact congrArg Except.ok strategy

end Plan

/-! ### Two preparations -/

/-- The preparation of a launch, with what passed between it and the host. -/
structure Preparation where
  launcher : Launcher
  command : Command
  block : List Bytes
  exchanges : List Exchange
  result : Except Failure (Command.Kind × Plan)
  run : (launcher.plan command block).Yields exchanges result

namespace Preparation

/-- The environment that the command gets. -/
def environment (a : Preparation) : List Bytes := Plan.environmentOf a.command a.block

/-- The list of directories was given: by the launcher, or else by the caller. -/
def Given (a : Preparation) (path : Bytes) : Prop :=
  a.launcher.searchPath = some path ∨
    a.launcher.searchPath = none ∧ Environment.valueOf "PATH" a.block = some path

/-- Whether the caller is privileged, if the host was asked. -/
def privileged? (a : Preparation) : Option Bool :=
  a.exchanges.findSome? fun
    | .reply .isPrivileged privileged => some privileged
    | _ => none

/-- The limit on paths, if the host was asked for one. -/
def pathLimit? (a : Preparation) : Option Nat :=
  a.exchanges.findSome? fun
    | .reply (.pathLimit _) reported => some (pathLimitOf reported)
    | _ => none

/-- How the command will be resolved and what will be tried, or why there is no plan. -/
def outcome (a : Preparation) : Except Failure (Command.Kind × Strategy) :=
  a.result.map fun planned => (planned.1, planned.2.strategy)

/-- No environment makes a difference to whether there is a plan: both commands get the same one, or
neither gets a zero byte. -/
def Comparable (a b : Preparation) : Prop :=
  a.command.envv = b.command.envv ∧ a.environment = b.environment ∨
    (∀ e ∈ a.environment, 0 ∉ e) ∧ ∀ e ∈ b.environment, 0 ∉ e

/-- The search was made in this context. -/
structure InContext (a : Preparation) (ctx : SearchContext) : Prop where
  searchPath : ctx.searchPath = (a.launcher.searchPath <|> Environment.valueOf "PATH" a.block)
  privileged : a.privileged? = some ctx.privileged
  pathLimit : a.pathLimit? = some ctx.pathLimit

theorem result_of_classify_error {a : Preparation} {reason : Rejection}
    (refused : a.command.classify = .error reason) :
    a.result = .error (.rejected reason) := by
  rcases Launcher.yields_plan_iff.1 a.run with ⟨_, found, _, result⟩ | ⟨_, _, _, accepted, _⟩
  · cases refused.symm.trans found
    exact result
  · cases refused.symm.trans accepted

theorem exists_inContext {a : Preparation} {kind : Command.Kind}
    (accepted : a.command.classify = .ok kind) :
    ∃ ctx, a.InContext ctx ∧ a.result = a.launcher.planned a.command kind ctx a.block := by
  rcases Launcher.yields_plan_iff.1 a.run with
    ⟨_, refused, _⟩ | ⟨_, privileged, reported, found, exchanges, result⟩
  · cases accepted.symm.trans refused
  · cases accepted.symm.trans found
    refine ⟨_, ⟨rfl, ?_, ?_⟩, result⟩
    · rw [privileged?, exchanges]
      rfl
    · rw [pathLimit?, exchanges]
      rfl

/-- A plan that was built is that of the command in the context of the search. -/
theorem eq_planOf_of_result {a : Preparation} {kind : Command.Kind} {p : Plan}
    (built : a.result = .ok (kind, p)) :
    a.command.classify = .ok kind ∧ ∃ ctx, a.InContext ctx ∧
      p = Plan.planOf a.command kind ctx a.launcher.exec a.block := by
  cases accepted : a.command.classify with
  | error reason => cases built.symm.trans (result_of_classify_error accepted)
  | ok kind =>
    obtain ⟨ctx, context, result⟩ := exists_inContext accepted
    have planned := result.symm.trans built
    unfold Launcher.planned at planned
    split at planned
    · cases planned
    next plan made =>
      cases planned
      exact ⟨rfl, ctx, context, Plan.eq_of_build_eq_ok made⟩

theorem outcome_eq_of_result {a : Preparation} {kind : Command.Kind} {ctx : SearchContext}
    (result : a.result = a.launcher.planned a.command kind ctx a.block) :
    a.outcome =
      match (Plan.build a.command kind ctx a.launcher.exec a.block).map Plan.strategy with
      | .error reason => .error (.rejected reason)
      | .ok strategy => .ok (kind, strategy) := by
  rw [outcome, result, Launcher.planned]
  cases Plan.build a.command kind ctx a.launcher.exec a.block <;> rfl

theorem classify_eq_of_comparable {a b : Preparation} (line : a.command.line = b.command.line)
    (arguments : a.command.argv = b.command.argv) (comparable : a.Comparable b) :
    a.command.classify = b.command.classify := by
  have clean {a : Preparation} (clean : ∀ e ∈ a.environment, 0 ∉ e) :
      (a.command.envv.getD []).any Command.textHasNul = false := by
    refine List.any_eq_false.2 fun e mem zero => ?_
    cases own : a.command.envv with
    | none => simp [own] at mem
    | some entries =>
      rw [own] at mem
      have given : a.environment = entries.map Bytes.ofText := by
        rw [environment, Plan.environmentOf, own]
      exact clean _ (given ▸ List.mem_map_of_mem mem)
        (Plan.zero_mem_ofText_iff.2 (Command.textHasNul_iff.1 zero))
  have same : (a.command.envv.getD []).any Command.textHasNul =
      (b.command.envv.getD []).any Command.textHasNul := by
    rcases comparable with ⟨same, -⟩ | ⟨ofA, ofB⟩
    · rw [same]
    · rw [clean ofA, clean ofB]
  rw [Command.classify, Command.classify, Command.hasNul, Command.hasNul, line, arguments, same]

/-- The two preparations come to the same. -/
structure Agree (a b : Preparation) : Prop where
  /-- Where both have a plan, the commands are resolved alike and by the same strategy, and the
  children try the same files with the same arguments. -/
  plans : ∀ kind kind' p q, a.result = .ok (kind, p) → b.result = .ok (kind', q) →
    kind = kind' ∧ p.strategy = q.strategy ∧
      ∀ before path argv, p.Tries before path argv ↔ q.Tries before path argv
  /-- If no environment stands in the way, both have a plan or neither has one, and for the same
  reason. -/
  outcomes : a.Comparable b → a.outcome = b.outcome

/-- Preparations agree if the strategies of the two commands are the same in the contexts of their
searches. -/
theorem agree_of_strategyOf {a b : Preparation} (line : a.command.line = b.command.line)
    (arguments : a.command.argv = b.command.argv)
    (shell : a.launcher.exec.shell = b.launcher.exec.shell)
    (strategy : ∀ kind ctx ctx', a.command.classify = .ok kind → a.InContext ctx →
      b.InContext ctx' →
        Plan.strategyOf a.command kind ctx a.launcher.exec =
          Plan.strategyOf b.command kind ctx' b.launcher.exec) : Agree a b where
  plans kind kind' p q ofA ofB := by
    obtain ⟨accepted, ctx, context, rfl⟩ := eq_planOf_of_result ofA
    obtain ⟨accepted', ctx', context', rfl⟩ := eq_planOf_of_result ofB
    obtain rfl : kind = kind' := by
      rw [(Command.classify_eq_ok_iff.1 accepted).2, (Command.classify_eq_ok_iff.1 accepted').2,
        line]
    have same := strategy kind ctx ctx' accepted context context'
    have arguments : Plan.argumentsOf a.command = Plan.argumentsOf b.command := by
      rw [Plan.argumentsOf, Plan.argumentsOf, arguments]
    exact ⟨rfl, same, Plan.tries_iff_of_eq shell arguments same⟩
  outcomes comparable := by
    have classified := classify_eq_of_comparable line arguments comparable
    cases accepted : a.command.classify with
    | error reason =>
      rw [outcome, outcome, result_of_classify_error accepted,
        result_of_classify_error (classified ▸ accepted)]
    | ok kind =>
      obtain ⟨ctx, context, result⟩ := exists_inContext accepted
      obtain ⟨ctx', context', result'⟩ := exists_inContext (classified ▸ accepted)
      have environment : (∃ e ∈ a.environment, 0 ∈ e) ↔ ∃ e ∈ b.environment, 0 ∈ e := by
        rcases comparable with ⟨-, same⟩ | ⟨ofA, ofB⟩
        · rw [same]
        · exact iff_of_false (fun ⟨e, mem, zero⟩ => ofA e mem zero)
            fun ⟨e, mem, zero⟩ => ofB e mem zero
      have same := Plan.map_strategy_build_eq arguments shell
        (strategy kind ctx ctx' accepted context context') environment
      rw [outcome_eq_of_result result, outcome_eq_of_result result', same]

/-! ### What a preparation depends on -/

/-- What the outcome of a preparation does not depend on. -/
structure Independent (a b : Preparation) : Prop where
  /-- The line and the arguments decide how a command is resolved. -/
  kinds : a.Comparable b → a.command.classify = b.command.classify
  /-- For a line for the shell or a path, nothing else plays a part: neither a list of directories,
  given or built in, nor privilege, nor the limit on paths. -/
  fixed : ∀ kind, a.command.classify = .ok kind → kind ≠ .bare → Agree a b
  /-- For a name, if the same list of directories was given, by whomever, and the limit is the same,
  neither privilege nor the built-in lists play a part.  A list of the launcher's own hides the
  caller's. -/
  given : ∀ path, a.Given path → b.Given path → a.pathLimit? = b.pathLimit? → Agree a b
  /-- For every command, the environment that it gets plays no part, whatever it holds. -/
  own : a.launcher = b.launcher → a.block = b.block → a.privileged? = b.privileged? →
    a.pathLimit? = b.pathLimit? → Agree a b

/-- **What the resolution of a command depends on**, for any two preparations of the same line with
the same arguments and the same shell. -/
theorem independent {a b : Preparation} (line : a.command.line = b.command.line)
    (arguments : a.command.argv = b.command.argv)
    (shell : a.launcher.exec.shell = b.launcher.exec.shell) : Independent a b where
  kinds := classify_eq_of_comparable line arguments
  fixed kind accepted other := by
    refine agree_of_strategyOf line arguments shell fun kind' ctx ctx' accepted' _ _ => ?_
    cases accepted.symm.trans accepted'
    exact Plan.strategyOf_congr line arguments shell (absurd · other)
  given path ofA ofB limit := by
    have inForce {a : Preparation} {ctx : SearchContext} (given : a.Given path)
        (context : a.InContext ctx) : ctx.effectivePath a.launcher.exec = path := by
      have found : ctx.searchPath = some path := by
        rw [context.searchPath]
        rcases given with own | ⟨none, caller⟩
        · rw [own]
          rfl
        · rw [none, caller]
          rfl
      rw [SearchContext.effectivePath, found]
    refine agree_of_strategyOf line arguments shell fun _ ctx ctx' _ context context' => ?_
    refine Plan.strategyOf_congr line arguments shell fun _ => ⟨?_, ?_⟩
    · rw [inForce ofA context, inForce ofB context']
    · exact Option.some.inj (context.pathLimit.symm.trans (limit.trans context'.pathLimit))
  own launcher block privileged limit := by
    refine agree_of_strategyOf line arguments shell fun _ ctx ctx' _ context context' => ?_
    have searchPath : ctx.searchPath = ctx'.searchPath := by
      rw [context.searchPath, context'.searchPath, launcher, block]
    have privilege : ctx.privileged = ctx'.privileged :=
      Option.some.inj (context.privileged.symm.trans (privileged.trans context'.privileged))
    refine Plan.strategyOf_congr line arguments shell fun _ => ⟨?_, ?_⟩
    · rw [SearchContext.effectivePath, SearchContext.effectivePath, searchPath, privilege, launcher]
    · exact Option.some.inj (context.pathLimit.symm.trans (limit.trans context'.pathLimit))

/-- One launcher has a list of its own, for a caller with another `PATH` who is privileged; the
other takes the caller's `PATH`, has other built-in lists, and starts a command whose own
environment has a third `PATH`.  Both try the same two files. -/
theorem independent_of_planted_path :
    ∃ a b : Preparation,
      a.Given (Bytes.ofText "/opt:/bin") ∧ a.privileged? = some true ∧
        a.block = [Bytes.ofText "PATH=/evil"] ∧
      b.Given (Bytes.ofText "/opt:/bin") ∧ b.privileged? = some false ∧
        b.environment = [Bytes.ofText "PATH=/planted"] ∧
      Independent a b ∧ a.outcome = b.outcome ∧
      b.outcome = .ok (.bare, .search
        [⟨Bytes.ofText "/opt/cat", [Bytes.ofText "/bin/sh", Bytes.ofText "/opt/cat"]⟩,
          ⟨Bytes.ofText "/bin/cat", [Bytes.ofText "/bin/sh", Bytes.ofText "/bin/cat"]⟩]) := by
  let a : Preparation :=
    ⟨{ searchPath := some (Bytes.ofText "/opt:/bin") }, .program "cat" ["cat"],
      [Bytes.ofText "PATH=/evil"], _, _,
      Launcher.yields_plan_iff.2 (.inr ⟨.bare, true, .ok (some 64), by decide, rfl, rfl⟩)⟩
  let b : Preparation :=
    ⟨{ exec := { rootPath := "/sbin", userPath := "" } },
      (Command.program "cat" ["cat"]).withEnv ["PATH=/planted"], [Bytes.ofText "PATH=/opt:/bin"],
      _, _, Launcher.yields_plan_iff.2 (.inr ⟨.bare, false, .ok (some 64), by decide, rfl, rfl⟩)⟩
  have ofA : a.Given (Bytes.ofText "/opt:/bin") := .inl rfl
  have ofB : b.Given (Bytes.ofText "/opt:/bin") := .inr ⟨rfl, by decide⟩
  have both : Independent a b := independent rfl rfl rfl
  have agree : Agree a b := both.given _ ofA ofB rfl
  refine ⟨a, b, ofA, rfl, rfl, ofB, rfl, by decide, both, agree.outcomes (.inr ?_), ?_⟩
  · decide
  · rfl

end Preparation

end Coprocess
