import Coprocess.Proofs.Runs

/-!
# Results that are reached

A host on which a program runs keeps a state and answers from it.  Here it is a relation between a
state, an exchange and the state after it, so that it may answer in several ways.
`Program.Attains H Q p w` says that the program `p`, started in the state `w` of the host `H`, comes
to a result whichever way it is answered, and that `Q` holds of the result and the state then.  It
is an inductive predicate, and each of its proofs is a tree without endless branches: no run of the
program goes on for ever, and none gets to a request that the host does not answer.

Main statements:
* `Attains.bind` and `Attains.loop`, for programs in sequence and for loops that have a measure;
* `Attains.exists_yields` and `Attains.of_yields`: on such a host there is a run that yields a
  result, and all that do have one for which `Q` holds.
-/

namespace Coprocess.Host.Program

variable {α β σ τ : Type} {H : σ → Exchange → σ → Prop} {w w' : σ} {t : List Exchange}

/-- Whichever way the host answers from the state `w` on, the program comes to a result, and `Q`
holds of that and of the state then. -/
inductive Attains (H : σ → Exchange → σ → Prop) (Q : α → σ → Prop) : Program α → σ → Prop
  | done {a : α} {w : σ} : Q a w → Attains H Q (.done a) w
  | call {c : Call} {next : c.Reply → Program α} {w : σ} : (∃ r w', H w (.reply c r) w') →
      (∀ r w', H w (.reply c r) w' → Attains H Q (next r) w') → Attains H Q (.call c next) w
  | fork {child : Program Unit} {next : Except Errno Pid → Program α} {w : σ} :
      (∃ r w', H w (.fork child r) w') →
      (∀ r w', H w (.fork child r) w' → Attains H Q (next r) w') →
      Attains H Q (.fork child next) w
  | spawn {thread : Program Unit} {next : Except Errno Unit → Program α} {w : σ} :
      (∃ r w', H w (.spawn thread r) w') →
      (∀ r w', H w (.spawn thread r) w' → Attains H Q (next r) w') →
      Attains H Q (.spawn thread next) w
  | unroll {β τ : Type} {s : τ} {body : τ → Program (τ ⊕ β)} {next : β → Program α} {w : σ} :
      Attains H Q (Program.unroll s body next) w → Attains H Q (.loop s body next) w

namespace Attains

theorem mono {p : Program α} {Q Q' : α → σ → Prop} (attains : p.Attains H Q w)
    (weaker : ∀ a w, Q a w → Q' a w) : p.Attains H Q' w := by
  induction attains with
  | done holds => exact .done (weaker _ _ holds)
  | call some _ ih => exact .call some ih
  | fork some _ ih => exact .fork some ih
  | spawn some _ ih => exact .spawn some ih
  | unroll _ ih => exact .unroll ih

/-- One program after another: the second starts in the state that the first has left. -/
theorem bind {p : Program α} {f : α → Program β} {R : β → σ → Prop}
    (attains : p.Attains H (fun a w => (f a).Attains H R w) w) : (p.bind f).Attains H R w := by
  induction attains with
  | done holds => exact holds
  | call some _ ih => exact .call some ih
  | fork some _ ih => exact .fork some ih
  | spawn some _ ih => exact .spawn some ih
  | @unroll _ _ s body next _ _ ih =>
    refine .unroll ?_
    have same : Program.unroll s body (fun b => (next b).bind f) =
        (Program.unroll s body next).bind f := by
      rw [Program.unroll, Program.unroll, bind_assoc]
      refine congrArg _ (funext fun x => ?_)
      cases x <;> rfl
    rw [same]
    exact ih

/-- A loop comes to an end if each round ends it or keeps an invariant and lowers a measure. -/
theorem loop {s : τ} {body : τ → Program (τ ⊕ β)} {next : β → Program α} {Q : α → σ → Prop}
    {I : τ → σ → Prop} (measure : τ → Nat)
    (round : ∀ s w, I s w → (body s).Attains H (fun x w' =>
      match x with
      | .inl s' => I s' w' ∧ measure s' < measure s
      | .inr b => (next b).Attains H Q w') w)
    (start : I s w) : (Program.loop s body next).Attains H Q w := by
  induction h : measure s using Nat.strongRecOn generalizing s w with
  | ind n ih =>
    subst h
    refine .unroll (bind ((round s w start).mono fun x w' holds => ?_))
    cases x with
    | inl s' => exact ih _ holds.2 holds.1 rfl
    | inr b => exact holds

end Attains

/-! ### Runs on the host -/

/-- The host answers the exchanges of a trace one after another, and is in the state `w'` after
them. -/
def Answers (H : σ → Exchange → σ → Prop) : σ → List Exchange → σ → Prop
  | w, [], w' => w' = w
  | w, x :: t, w' => ∃ v, H w x v ∧ Answers H v t w'

/-- Unrolling a loop once changes nothing about its runs. -/
theorem yields_unroll_iff {s : τ} {body : τ → Program (τ ⊕ β)} {next : β → Program α} {a : α} :
    (Program.unroll s body next).Yields t a ↔ (loop s body next).Yields t a := by
  rw [Program.unroll, yields_bind_iff, yields_loop_iff]
  constructor
  · rintro ⟨t₁, s' | b, t₂, rfl, round, rest⟩
    · exact .inr ⟨s', t₁, t₂, rfl, round, rest⟩
    · exact .inl ⟨b, t₁, t₂, rfl, round, rest⟩
  · rintro (⟨b, t₁, t₂, rfl, round, rest⟩ | ⟨s', t₁, t₂, rfl, round, rest⟩)
    · exact ⟨t₁, .inr b, t₂, rfl, round, rest⟩
    · exact ⟨t₁, .inl s', t₂, rfl, round, rest⟩

/-- On a host on which a program attains its result it has a run that yields one. -/
theorem Attains.exists_yields {p : Program α} {Q : α → σ → Prop} (attains : p.Attains H Q w) :
    ∃ t a w', p.Yields t a ∧ Answers H w t w' ∧ Q a w' := by
  induction attains with
  | done holds => exact ⟨[], _, _, .done _, rfl, holds⟩
  | call some _ ih =>
    obtain ⟨r, v, answered⟩ := some
    obtain ⟨t, a, w', run, rest, holds⟩ := ih r v answered
    exact ⟨_, a, w', .call run, ⟨v, answered, rest⟩, holds⟩
  | fork some _ ih =>
    obtain ⟨r, v, answered⟩ := some
    obtain ⟨t, a, w', run, rest, holds⟩ := ih r v answered
    exact ⟨_, a, w', .fork run, ⟨v, answered, rest⟩, holds⟩
  | spawn some _ ih =>
    obtain ⟨r, v, answered⟩ := some
    obtain ⟨t, a, w', run, rest, holds⟩ := ih r v answered
    exact ⟨_, a, w', .spawn run, ⟨v, answered, rest⟩, holds⟩
  | unroll _ ih =>
    obtain ⟨t, a, w', run, answered, holds⟩ := ih
    exact ⟨t, a, w', yields_unroll_iff.1 run, answered, holds⟩

/-- Whatever a program yields that attains its result is such a result. -/
theorem Attains.of_yields {p : Program α} {Q : α → σ → Prop} {a : α} (attains : p.Attains H Q w)
    (run : p.Yields t a) (answered : Answers H w t w') : Q a w' := by
  induction attains generalizing t with
  | done holds =>
    obtain ⟨rfl, rfl⟩ := yields_done_iff.1 run
    cases answered
    exact holds
  | call _ _ ih =>
    obtain ⟨r, t, rfl, onward⟩ := yields_call_iff.1 run
    obtain ⟨v, first, rest⟩ := answered
    exact ih r v first onward rest
  | fork _ _ ih =>
    obtain ⟨r, t, rfl, onward⟩ := yields_fork_iff.1 run
    obtain ⟨v, first, rest⟩ := answered
    exact ih r v first onward rest
  | spawn _ _ ih =>
    obtain ⟨r, t, rfl, onward⟩ := yields_spawn_iff.1 run
    obtain ⟨v, first, rest⟩ := answered
    exact ih r v first onward rest
  | unroll _ ih => exact ih (yields_unroll_iff.2 run) answered

end Coprocess.Host.Program
