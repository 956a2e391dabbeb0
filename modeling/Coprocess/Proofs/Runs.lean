import Coprocess.Host.Machine
import Mathlib.Tactic.Common

/-!
# Runs of a program

A program says what it asks for and what it does with each answer; it does not say what the answers
are.  A run fixes them.  `Program.Yields p t a` says that `p` comes to the result `a` when what
passes between it and the host is exactly `t`, and `Program.Asks p t c` that after `t` it makes the
request `c`.  Nothing is assumed of the answers, so that what holds of all runs holds on every host,
whatever state that keeps.

A program with a loop need not come to a result, and then it has no run that yields one; what it
asks for on the way is still there in `Asks`.

Main statements:
* `yields_bind_iff` and `asks_bind_iff`: a run of one program after another is a run of the first
  and then one of the second;
* `Yields.of_advanceBy` and `yields_of_run`: the steps that a machine makes are runs in this sense;
* `Yields.forall_of_only`: a program that is built from certain requests only makes no others.
-/

namespace Coprocess.Host

/-- One thing that passes between a program and its host. -/
inductive Exchange where
  /-- A request and the answer to it. -/
  | reply (c : Call) (r : c.Reply)
  /-- A fork: what the child will do, and what the parent is told. -/
  | fork (child : Program Unit) (r : Except Errno Pid)
  /-- The start of a second thread: what it will do, and what the process is told. -/
  | spawn (thread : Program Unit) (r : Except Errno Unit)

namespace Program

variable {α β σ : Type}

/-! ### Runs that come to a result -/

/-- `p.Yields t a`: the program `p` comes to the result `a` by the exchanges `t`. -/
inductive Yields : {α : Type} → Program α → List Exchange → α → Prop
  | done {α : Type} (a : α) : Yields (.done a) [] a
  | call {α : Type} {c : Call} {next : c.Reply → Program α} {r : c.Reply} {t : List Exchange}
      {a : α} : Yields (next r) t a → Yields (.call c next) (.reply c r :: t) a
  | fork {α : Type} {child : Program Unit} {next : Except Errno Pid → Program α}
      {r : Except Errno Pid} {t : List Exchange} {a : α} :
      Yields (next r) t a → Yields (.fork child next) (.fork child r :: t) a
  | spawn {α : Type} {thread : Program Unit} {next : Except Errno Unit → Program α}
      {r : Except Errno Unit} {t : List Exchange} {a : α} :
      Yields (next r) t a → Yields (.spawn thread next) (.spawn thread r :: t) a
  /-- The body of a loop yields a result, and what follows the loop goes on with it. -/
  | stop {α β σ : Type} {s : σ} {body : σ → Program (σ ⊕ β)} {next : β → Program α} {b : β}
      {t₁ t₂ : List Exchange} {a : α} :
      Yields (body s) t₁ (.inr b) → Yields (next b) t₂ a → Yields (.loop s body next) (t₁ ++ t₂) a
  /-- The body of a loop comes to another state, and the loop goes on from there. -/
  | again {α β σ : Type} {s s' : σ} {body : σ → Program (σ ⊕ β)} {next : β → Program α}
      {t₁ t₂ : List Exchange} {a : α} :
      Yields (body s) t₁ (.inl s') → Yields (.loop s' body next) t₂ a →
      Yields (.loop s body next) (t₁ ++ t₂) a

@[simp] theorem yields_done_iff {a b : α} {t : List Exchange} :
    (done a).Yields t b ↔ t = [] ∧ b = a := by
  constructor
  · intro h
    cases h
    exact ⟨rfl, rfl⟩
  · rintro ⟨rfl, rfl⟩
    exact .done _

@[simp] theorem yields_call_iff {c : Call} {next : c.Reply → Program α} {t : List Exchange}
    {a : α} :
    (call c next).Yields t a ↔ ∃ r t', t = .reply c r :: t' ∧ (next r).Yields t' a := by
  constructor
  · intro h
    cases h with
    | call h => exact ⟨_, _, rfl, h⟩
  · rintro ⟨r, t', rfl, h⟩
    exact .call h

@[simp] theorem yields_fork_iff {child : Program Unit} {next : Except Errno Pid → Program α}
    {t : List Exchange} {a : α} :
    (fork child next).Yields t a ↔ ∃ r t', t = .fork child r :: t' ∧ (next r).Yields t' a := by
  constructor
  · intro h
    cases h with
    | fork h => exact ⟨_, _, rfl, h⟩
  · rintro ⟨r, t', rfl, h⟩
    exact .fork h

@[simp] theorem yields_spawn_iff {thread : Program Unit} {next : Except Errno Unit → Program α}
    {t : List Exchange} {a : α} :
    (spawn thread next).Yields t a ↔ ∃ r t', t = .spawn thread r :: t' ∧ (next r).Yields t' a := by
  constructor
  · intro h
    cases h with
    | spawn h => exact ⟨_, _, rfl, h⟩
  · rintro ⟨r, t', rfl, h⟩
    exact .spawn h

theorem yields_loop_iff {s : σ} {body : σ → Program (σ ⊕ β)} {next : β → Program α}
    {t : List Exchange} {a : α} :
    (loop s body next).Yields t a ↔
      (∃ b t₁ t₂, t = t₁ ++ t₂ ∧ (body s).Yields t₁ (.inr b) ∧ (next b).Yields t₂ a) ∨
      ∃ s' t₁ t₂, t = t₁ ++ t₂ ∧ (body s).Yields t₁ (.inl s') ∧
        (loop s' body next).Yields t₂ a := by
  constructor
  · intro h
    cases h with
    | stop h₁ h₂ => exact .inl ⟨_, _, _, rfl, h₁, h₂⟩
    | again h₁ h₂ => exact .inr ⟨_, _, _, rfl, h₁, h₂⟩
  · rintro (⟨b, t₁, t₂, rfl, h₁, h₂⟩ | ⟨s', t₁, t₂, rfl, h₁, h₂⟩)
    · exact .stop h₁ h₂
    · exact .again h₁ h₂

/-- To show what a run of a loop yields, show it for a last round and what follows it, and for a
round before a loop of which it is known. -/
theorem Yields.loop_induction {body : σ → Program (σ ⊕ β)} {next : β → Program α}
    {P : σ → List Exchange → α → Prop}
    (stop : ∀ s b t₁ t₂ a, (body s).Yields t₁ (.inr b) → (next b).Yields t₂ a → P s (t₁ ++ t₂) a)
    (again : ∀ s s' t₁ t₂ a, (body s).Yields t₁ (.inl s') → P s' t₂ a → P s (t₁ ++ t₂) a)
    {s : σ} {t : List Exchange} {a : α} (run : (loop s body next).Yields t a) : P s t a := by
  generalize whole : loop s body next = p at run
  induction run generalizing s with
  | stop h₁ h₂ =>
    cases whole
    exact stop _ _ _ _ _ h₁ h₂
  | again h₁ _ _ ih =>
    cases whole
    exact again _ _ _ _ _ h₁ (ih stop again rfl)
  | _ => cases whole

/-- The same for a loop that nothing follows. -/
theorem Yields.iterate_induction {body : σ → Program (σ ⊕ β)} {P : σ → List Exchange → β → Prop}
    (stop : ∀ s t b, (body s).Yields t (.inr b) → P s t b)
    (again : ∀ s s' t t' b, (body s).Yields t (.inl s') → P s' t' b → P s (t ++ t') b)
    {s : σ} {t : List Exchange} {b : β} (run : (iterate s body).Yields t b) : P s t b := by
  refine Yields.loop_induction ?_ again run
  intro s b t₁ t₂ b' round last
  obtain ⟨rfl, rfl⟩ := yields_done_iff.1 last
  rw [List.append_nil]
  exact stop s t₁ b' round

theorem Yields.bind {p : Program α} {f : α → Program β} {t₁ t₂ : List Exchange} {a : α} {b : β}
    (first : p.Yields t₁ a) (second : (f a).Yields t₂ b) : (p.bind f).Yields (t₁ ++ t₂) b := by
  induction first with
  | done => exact second
  | call _ ih => exact .call (ih second)
  | fork _ ih => exact .fork (ih second)
  | spawn _ ih => exact .spawn (ih second)
  | stop h _ _ ih =>
    rw [List.append_assoc]
    exact .stop h (ih second)
  | again h _ _ ih =>
    rw [List.append_assoc]
    exact .again h (ih second)

@[simp] theorem done_bind (a : α) (f : α → Program β) : (done a).bind f = f a := rfl

@[simp] theorem call_bind (c : Call) (next : c.Reply → Program α) (f : α → Program β) :
    (call c next).bind f = call c fun r => (next r).bind f := rfl

theorem loop_bind {γ : Type} (s : σ) (body : σ → Program (σ ⊕ γ)) (next : γ → Program α)
    (f : α → Program β) :
    (loop s body next).bind f = loop s body fun b => (next b).bind f := rfl

/-- Taking a run of two programs apart. -/
theorem exists_of_yields_bind {p : Program α} {f : α → Program β} {t : List Exchange} {b : β}
    (h : (p.bind f).Yields t b) :
    ∃ t₁ a t₂, t = t₁ ++ t₂ ∧ p.Yields t₁ a ∧ (f a).Yields t₂ b := by
  induction p generalizing t b with
  | done a => exact ⟨[], a, t, rfl, .done a, h⟩
  | call c next ih =>
    obtain ⟨r, t, rfl, h'⟩ := yields_call_iff.1 h
    obtain ⟨t₁, a, t₂, rfl, h₁, h₂⟩ := ih r h'
    exact ⟨_, a, t₂, rfl, .call h₁, h₂⟩
  | fork child next _ ih =>
    obtain ⟨r, t, rfl, h'⟩ := yields_fork_iff.1 h
    obtain ⟨t₁, a, t₂, rfl, h₁, h₂⟩ := ih r h'
    exact ⟨_, a, t₂, rfl, .fork h₁, h₂⟩
  | spawn thread next _ ih =>
    obtain ⟨r, t, rfl, h'⟩ := yields_spawn_iff.1 h
    obtain ⟨t₁, a, t₂, rfl, h₁, h₂⟩ := ih r h'
    exact ⟨_, a, t₂, rfl, .spawn h₁, h₂⟩
  | loop s body next ihBody ih =>
    -- The rounds of the loop are in the run, not in the program, so the induction is on the run.
    refine Yields.loop_induction (P := fun s t b => ∃ t₁ a t₂, t = t₁ ++ t₂ ∧
      (loop s body next).Yields t₁ a ∧ (f a).Yields t₂ b) ?_ ?_ h
    · intro _ b' t₁ _ _ h₁ rest
      obtain ⟨t₂, a, t₃, rfl, h₂, h₃⟩ := ih b' rest
      exact ⟨_, a, t₃, (List.append_assoc ..).symm, .stop h₁ h₂, h₃⟩
    · rintro _ _ t₁ _ _ h₁ ⟨t₂, a, t₃, rfl, h₂, h₃⟩
      exact ⟨_, a, t₃, (List.append_assoc ..).symm, .again h₁ h₂, h₃⟩

theorem yields_bind_iff {p : Program α} {f : α → Program β} {t : List Exchange} {b : β} :
    (p.bind f).Yields t b ↔ ∃ t₁ a t₂, t = t₁ ++ t₂ ∧ p.Yields t₁ a ∧ (f a).Yields t₂ b := by
  constructor
  · exact exists_of_yields_bind
  · rintro ⟨t₁, a, t₂, rfl, h₁, h₂⟩
    exact h₁.bind h₂

theorem yields_request_iff {c : Call} {t : List Exchange} {r : c.Reply} :
    (request c).Yields t r ↔ t = [.reply c r] := by
  simp [request]

/-! ### Requests that are reached -/

/-- `p.Asks t c`: after the exchanges `t`, the program `p` makes the request `c`. -/
inductive Asks : {α : Type} → Program α → List Exchange → Call → Prop
  | here {α : Type} {c : Call} {next : c.Reply → Program α} : Asks (.call c next) [] c
  | call {α : Type} {c : Call} {next : c.Reply → Program α} {r : c.Reply} {t : List Exchange}
      {c' : Call} : Asks (next r) t c' → Asks (.call c next) (.reply c r :: t) c'
  | fork {α : Type} {child : Program Unit} {next : Except Errno Pid → Program α}
      {r : Except Errno Pid} {t : List Exchange} {c : Call} :
      Asks (next r) t c → Asks (.fork child next) (.fork child r :: t) c
  | spawn {α : Type} {thread : Program Unit} {next : Except Errno Unit → Program α}
      {r : Except Errno Unit} {t : List Exchange} {c : Call} :
      Asks (next r) t c → Asks (.spawn thread next) (.spawn thread r :: t) c
  /-- The request is made by the body of a loop. -/
  | within {α β σ : Type} {s : σ} {body : σ → Program (σ ⊕ β)} {next : β → Program α}
      {t : List Exchange} {c : Call} : Asks (body s) t c → Asks (.loop s body next) t c
  | stop {α β σ : Type} {s : σ} {body : σ → Program (σ ⊕ β)} {next : β → Program α} {b : β}
      {t₁ t₂ : List Exchange} {c : Call} :
      Yields (body s) t₁ (.inr b) → Asks (next b) t₂ c → Asks (.loop s body next) (t₁ ++ t₂) c
  | again {α β σ : Type} {s s' : σ} {body : σ → Program (σ ⊕ β)} {next : β → Program α}
      {t₁ t₂ : List Exchange} {c : Call} :
      Yields (body s) t₁ (.inl s') → Asks (.loop s' body next) t₂ c →
      Asks (.loop s body next) (t₁ ++ t₂) c

@[simp] theorem not_asks_done {a : α} {t : List Exchange} {c : Call} : ¬ (done a).Asks t c := by
  intro h
  cases h

@[simp] theorem asks_call_iff {c c' : Call} {next : c.Reply → Program α} {t : List Exchange} :
    (call c next).Asks t c' ↔
      (t = [] ∧ c' = c) ∨ ∃ r t', t = .reply c r :: t' ∧ (next r).Asks t' c' := by
  constructor
  · intro h
    cases h with
    | here => exact .inl ⟨rfl, rfl⟩
    | call h => exact .inr ⟨_, _, rfl, h⟩
  · rintro (⟨rfl, rfl⟩ | ⟨r, t', rfl, h⟩)
    · exact .here
    · exact .call h

@[simp] theorem asks_fork_iff {child : Program Unit} {next : Except Errno Pid → Program α}
    {t : List Exchange} {c : Call} :
    (fork child next).Asks t c ↔ ∃ r t', t = .fork child r :: t' ∧ (next r).Asks t' c := by
  constructor
  · intro h
    cases h with
    | fork h => exact ⟨_, _, rfl, h⟩
  · rintro ⟨r, t', rfl, h⟩
    exact .fork h

theorem asks_spawn_iff {thread : Program Unit} {next : Except Errno Unit → Program α}
    {t : List Exchange} {c : Call} :
    (spawn thread next).Asks t c ↔ ∃ r t', t = .spawn thread r :: t' ∧ (next r).Asks t' c := by
  constructor
  · intro h
    cases h with
    | spawn h => exact ⟨_, _, rfl, h⟩
  · rintro ⟨r, t', rfl, h⟩
    exact .spawn h

theorem Asks.bind_left {p : Program α} {f : α → Program β} {t : List Exchange} {c : Call}
    (h : p.Asks t c) : (p.bind f).Asks t c := by
  induction h with
  | here => exact .here
  | call _ ih => exact .call ih
  | fork _ ih => exact .fork ih
  | spawn _ ih => exact .spawn ih
  | within h _ => exact .within h
  | stop h _ ih => exact .stop h ih
  | again h _ ih => exact .again h ih

theorem Asks.bind_right {p : Program α} {f : α → Program β} {t₁ t₂ : List Exchange} {a : α}
    {c : Call} (first : p.Yields t₁ a) (h : (f a).Asks t₂ c) : (p.bind f).Asks (t₁ ++ t₂) c := by
  induction first with
  | done => exact h
  | call _ ih => exact .call (ih h)
  | fork _ ih => exact .fork (ih h)
  | spawn _ ih => exact .spawn (ih h)
  | stop h₁ _ _ ih =>
    rw [List.append_assoc]
    exact .stop h₁ (ih h)
  | again h₁ _ _ ih =>
    rw [List.append_assoc]
    exact .again h₁ (ih h)

/-- A request of one program after another is made by the first, or by the second once the first has
come to a result. -/
theorem asks_or_of_asks_bind {p : Program α} {f : α → Program β} {t : List Exchange} {c : Call}
    (h : (p.bind f).Asks t c) :
    p.Asks t c ∨ ∃ t₁ a t₂, t = t₁ ++ t₂ ∧ p.Yields t₁ a ∧ (f a).Asks t₂ c := by
  induction p generalizing t with
  | done a => exact .inr ⟨[], a, t, rfl, .done a, h⟩
  | call c next ih =>
    rcases asks_call_iff.1 h with ⟨rfl, rfl⟩ | ⟨r, t, rfl, h'⟩
    · exact .inl .here
    · rcases ih r h' with h' | ⟨t₁, a, t₂, rfl, h₁, h₂⟩
      · exact .inl (.call h')
      · exact .inr ⟨_, a, t₂, rfl, .call h₁, h₂⟩
  | fork child next _ ih =>
    obtain ⟨r, t, rfl, h'⟩ := asks_fork_iff.1 h
    rcases ih r h' with h' | ⟨t₁, a, t₂, rfl, h₁, h₂⟩
    · exact .inl (.fork h')
    · exact .inr ⟨_, a, t₂, rfl, .fork h₁, h₂⟩
  | spawn thread next _ ih =>
    obtain ⟨r, t, rfl, h'⟩ := asks_spawn_iff.1 h
    rcases ih r h' with h' | ⟨t₁, a, t₂, rfl, h₁, h₂⟩
    · exact .inl (.spawn h')
    · exact .inr ⟨_, a, t₂, rfl, .spawn h₁, h₂⟩
  | loop s body next ihBody ih =>
    clear ihBody
    generalize whole : (loop s body next).bind f = q at h
    induction h generalizing s with
    | within h =>
      cases whole
      exact .inl (.within h)
    | stop h₁ h₂ =>
      cases whole
      rcases ih _ h₂ with h₂ | ⟨t₁, a, t₂, rfl, h₂, h₃⟩
      · exact .inl (.stop h₁ h₂)
      · exact .inr ⟨_, a, t₂, (List.append_assoc ..).symm, .stop h₁ h₂, h₃⟩
    | again h₁ _ again =>
      cases whole
      rcases again _ ih (loop_bind ..) with h₂ | ⟨t₁, a, t₂, rfl, h₂, h₃⟩
      · exact .inl (.again h₁ h₂)
      · exact .inr ⟨_, a, t₂, (List.append_assoc ..).symm, .again h₁ h₂, h₃⟩
    | _ => cases whole

theorem asks_bind_iff {p : Program α} {f : α → Program β} {t : List Exchange} {c : Call} :
    (p.bind f).Asks t c ↔
      p.Asks t c ∨ ∃ t₁ a t₂, t = t₁ ++ t₂ ∧ p.Yields t₁ a ∧ (f a).Asks t₂ c := by
  constructor
  · exact asks_or_of_asks_bind
  · rintro (h | ⟨t₁, a, t₂, rfl, h₁, h₂⟩)
    · exact h.bind_left
    · exact h₂.bind_right h₁

/-- The same for what a loop asks: a request is made in this round, or after it. -/
theorem Asks.iterate_induction {body : σ → Program (σ ⊕ β)} {c : Call}
    {P : σ → List Exchange → Prop}
    (within : ∀ s t, (body s).Asks t c → P s t)
    (again : ∀ s s' t t', (body s).Yields t (.inl s') → P s' t' → P s (t ++ t'))
    {s : σ} {t : List Exchange} (asks : (iterate s body).Asks t c) : P s t := by
  unfold iterate at asks
  generalize whole : loop s body Program.done = p at asks
  induction asks generalizing s with
  | within h =>
    cases whole
    exact within _ _ h
  | stop _ h =>
    cases whole
    cases h
  | again h₁ _ ih =>
    cases whole
    exact again _ _ _ _ h₁ (ih within again rfl)
  | _ => cases whole

/-! ### What a program can ask for -/

/-- The program makes only requests that satisfy `P`, and neither forks nor starts threads. -/
def Only (P : Call → Prop) : {α : Type} → Program α → Prop
  | _, done _ => True
  | _, call c next => P c ∧ ∀ r, (next r).Only P
  | _, fork _ _ => False
  | _, spawn _ _ => False
  | _, loop _ body next => (∀ s, (body s).Only P) ∧ ∀ b, (next b).Only P

theorem Only.bind {P : Call → Prop} {p : Program α} {f : α → Program β} (first : p.Only P)
    (second : ∀ a, (f a).Only P) : (p.bind f).Only P := by
  induction p with
  | done a => exact second a
  | call c next ih => exact ⟨first.1, fun r => ih r (first.2 r) second⟩
  | fork => exact first.elim
  | spawn => exact first.elim
  | loop s body next _ ih => exact ⟨first.1, fun b => ih b (first.2 b) second⟩

/-- The exchanges of a run are requests of the kind that the program is built from. -/
theorem Yields.forall_of_only {P : Call → Prop} {p : Program α} {t : List Exchange} {a : α}
    (run : p.Yields t a) (only : p.Only P) : ∀ x ∈ t, ∃ c r, x = .reply c r ∧ P c := by
  induction run with
  | done => simp
  | call _ ih =>
    rintro x (_ | ⟨_, hx⟩)
    · exact ⟨_, _, rfl, only.1⟩
    · exact ih (only.2 _) x hx
  | fork => exact only.elim
  | spawn => exact only.elim
  | stop _ _ ih₁ ih₂ =>
    intro x hx
    rcases List.mem_append.1 hx with hx | hx
    · exact ih₁ (only.1 _) x hx
    · exact ih₂ (only.2 _) x hx
  | again _ _ ih₁ ih₂ =>
    intro x hx
    rcases List.mem_append.1 hx with hx | hx
    · exact ih₁ (only.1 _) x hx
    · exact ih₂ only x hx

theorem Asks.of_only {P : Call → Prop} {p : Program α} {t : List Exchange} {c : Call}
    (asks : p.Asks t c) (only : p.Only P) : P c := by
  induction asks with
  | here => exact only.1
  | call _ ih => exact ih (only.2 _)
  | fork => exact only.elim
  | spawn => exact only.elim
  | within _ ih => exact ih (only.1 _)
  | stop _ _ ih => exact ih (only.2 _)
  | again _ _ ih => exact ih only

/-- What has passed when a request is made is of the same kind. -/
theorem Asks.forall_of_only {P : Call → Prop} {p : Program α} {t : List Exchange} {c : Call}
    (asks : p.Asks t c) (only : p.Only P) : ∀ x ∈ t, ∃ c r, x = .reply c r ∧ P c := by
  induction asks with
  | here => simp
  | call _ ih =>
    rintro x (_ | ⟨_, hx⟩)
    · exact ⟨_, _, rfl, only.1⟩
    · exact ih (only.2 _) x hx
  | fork => exact only.elim
  | spawn => exact only.elim
  | within _ ih => exact ih (only.1 _)
  | stop run _ ih =>
    intro x hx
    rcases List.mem_append.1 hx with hx | hx
    · exact run.forall_of_only (only.1 _) x hx
    · exact ih (only.2 _) x hx
  | again run _ ih =>
    intro x hx
    rcases List.mem_append.1 hx with hx | hx
    · exact run.forall_of_only (only.1 _) x hx
    · exact ih only x hx

/-! ### The runs of a machine -/

/-- A step that a machine makes can be put before any run of what is left. -/
theorem Yields.of_advanceBy {w w' : World} {pid : Pid} {p p' : Program α} {started : List Task}
    {t : List Exchange} {a : α} (step : advanceBy w pid p = .going p' started w')
    (run : p'.Yields t a) : ∃ t', p.Yields t' a := by
  cases p with
  | done => simp [advanceBy] at step
  | call c next =>
    -- Whatever the machine answers, an interruption included, is an answer to the request.
    obtain ⟨r, rfl⟩ : ∃ r, p' = next r := by
      simp only [advanceBy] at step
      split at step
      · cases step
        exact ⟨_, rfl⟩
      · cases step
      · cases step
      · split at step
        · split at step
          · cases step
            exact ⟨_, rfl⟩
          · cases step
        · cases step
    exact ⟨_, .call run⟩
  | fork child next =>
    cases step
    exact ⟨_, .fork run⟩
  | spawn thread next =>
    cases step
    exact ⟨_, .spawn run⟩
  | loop s body next =>
    cases step
    obtain ⟨t₁, b, t₂, rfl, h₁, h₂⟩ := yields_bind_iff.1 run
    cases b with
    | inl s' => exact ⟨_, .again h₁ h₂⟩
    | inr b => exact ⟨_, .stop h₁ h₂⟩

/-- A program that a machine has finished with has nothing left to do. -/
theorem eq_done_of_advanceBy {w : World} {pid : Pid} {p : Program α} {a : α}
    (step : advanceBy w pid p = .finished a) : p = done a := by
  cases p with
  | done => cases step; rfl
  | call c next =>
    simp only [advanceBy] at step
    split at step
    · cases step
    · cases step
    · cases step
    · split at step
      · split at step <;> cases step
      · cases step
  | fork => cases step
  | spawn => cases step
  | loop => cases step

/-- What a machine brings a program to is the result of one of its runs. -/
theorem yields_of_run {images : Images} {pid : Pid} {budget : Nat} {p : Program α}
    {tasks : List Task} {w w' : World} {a : α}
    (h : Host.run images pid budget p tasks w = some (a, w')) : ∃ t, p.Yields t a := by
  induction budget generalizing p tasks w with
  | zero => cases h
  | succ budget ih =>
    simp only [Host.run] at h
    split at h
    next step =>
      obtain ⟨t, run⟩ := ih h
      exact run.of_advanceBy step
    next step =>
      obtain ⟨rfl, -⟩ := Prod.mk.inj (Option.some.inj h)
      exact ⟨[], eq_done_of_advanceBy step ▸ .done _⟩
    next => cases h
    next => cases h
    next =>
      -- The program waits, and is the same when it is looked at again.
      split at h
      · exact ih h
      · split at h
        · exact ih h
        · cases h

end Program

end Coprocess.Host
