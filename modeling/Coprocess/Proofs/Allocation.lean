import Coprocess.Allocator
import Coprocess.Proofs.Runs

/-!
# Runs under an allocator

A program with an allocator in charge runs as it does by itself, except that the two requests for
terminals are answered by runs of the allocator.  What holds of all runs of the program therefore
holds with every allocator.

The main statement is `exists_of_yields_allocatedBy`.
-/

namespace Coprocess

open Host Program

variable {α σ : Type}

/-- `a.Serves s t t' s'`: what the program takes part in as the exchanges `t` is `t'` for the host,
if the allocator `a` is in charge.  It comes from the state `s` to `s'` on the way. -/
inductive Allocator.Serves (a : Allocator σ) : σ → List Exchange → List Exchange → σ → Prop
  | nil (s : σ) : Serves a s [] [] s
  /-- A pair is asked for: the allocator runs, and its result is the answer. -/
  | acquire {modes : Option Modes} {size : Option WindowSize} {r : Except Failure TerminalPair}
      {s s' s'' : σ} {t t₁ t₂ : List Exchange} :
      (a.acquire s modes size).Yields t₁ (r, s') → Serves a s' t t₂ s'' →
      Serves a s (.reply (.acquireTerminal modes size) r :: t) (t₁ ++ t₂) s''
  /-- A slave is given back: the allocator runs, and its result is the answer. -/
  | release {slaveName : String} {r : Except Failure Unit} {s s' s'' : σ}
      {t t₁ t₂ : List Exchange} :
      (a.release s slaveName).Yields t₁ (r, s') → Serves a s' t t₂ s'' →
      Serves a s (.reply (.releaseTerminal slaveName) r :: t) (t₁ ++ t₂) s''
  /-- Every other request goes to the host. -/
  | reply {c : Call} {r : c.Reply} {s s' : σ} {t t' : List Exchange}
      (ofAcquire : ∀ modes size, c ≠ .acquireTerminal modes size)
      (ofRelease : ∀ slaveName, c ≠ .releaseTerminal slaveName) :
      Serves a s t t' s' → Serves a s (.reply c r :: t) (.reply c r :: t') s'
  | fork {child : Program Unit} {r : Except Errno Pid} {s s' : σ} {t t' : List Exchange} :
      Serves a s t t' s' →
      Serves a s (.fork child r :: t)
        (.fork ((child.allocatedBy a s).bind fun _ => .done ()) r :: t') s'
  | spawn {thread : Program Unit} {r : Except Errno Unit} {s s' : σ} {t t' : List Exchange} :
      Serves a s t t' s' →
      Serves a s (.spawn thread r :: t)
        (.spawn ((thread.allocatedBy a s).bind fun _ => .done ()) r :: t') s'

theorem Allocator.Serves.append {a : Allocator σ} {s s' s'' : σ} {t₁ t₂ t₁' t₂' : List Exchange}
    (first : a.Serves s t₁ t₁' s') (second : a.Serves s' t₂ t₂' s'') :
    a.Serves s (t₁ ++ t₂) (t₁' ++ t₂') s'' := by
  induction first with
  | nil => exact second
  | acquire run _ ih =>
    rw [List.append_assoc]
    exact .acquire run (ih second)
  | release run _ ih =>
    rw [List.append_assoc]
    exact .release run (ih second)
  | reply ofAcquire ofRelease _ ih => exact .reply ofAcquire ofRelease (ih second)
  | fork _ ih => exact .fork (ih second)
  | spawn _ ih => exact .spawn (ih second)

/-- Serving one trace after another is serving the first, and then the second. -/
theorem Allocator.Serves.exists_of_append {a : Allocator σ} {s s' : σ} {t₁ t₂ t' : List Exchange}
    (serves : a.Serves s (t₁ ++ t₂) t' s') :
    ∃ t₁' t₂' s₁, t' = t₁' ++ t₂' ∧ a.Serves s t₁ t₁' s₁ ∧ a.Serves s₁ t₂ t₂' s' := by
  induction t₁ generalizing s t' with
  | nil => exact ⟨[], t', s, rfl, .nil s, serves⟩
  | cons x t₁ ih =>
    cases serves with
    | acquire run rest =>
      obtain ⟨t₁', t₂', s₁, rfl, first, second⟩ := ih rest
      exact ⟨_, t₂', s₁, (List.append_assoc ..).symm, .acquire run first, second⟩
    | release run rest =>
      obtain ⟨t₁', t₂', s₁, rfl, first, second⟩ := ih rest
      exact ⟨_, t₂', s₁, (List.append_assoc ..).symm, .release run first, second⟩
    | reply ofAcquire ofRelease rest =>
      obtain ⟨t₁', t₂', s₁, rfl, first, second⟩ := ih rest
      exact ⟨_, t₂', s₁, rfl, .reply ofAcquire ofRelease first, second⟩
    | fork rest =>
      obtain ⟨t₁', t₂', s₁, rfl, first, second⟩ := ih rest
      exact ⟨_, t₂', s₁, rfl, .fork first, second⟩
    | spawn rest =>
      obtain ⟨t₁', t₂', s₁, rfl, first, second⟩ := ih rest
      exact ⟨_, t₂', s₁, rfl, .spawn first, second⟩

theorem allocatedBy_call_of_ne {a : Allocator σ} {s : σ} {c : Call} {next : c.Reply → Program α}
    (ofAcquire : ∀ modes size, c ≠ .acquireTerminal modes size)
    (ofRelease : ∀ slaveName, c ≠ .releaseTerminal slaveName) :
    (call c next).allocatedBy a s = call c fun r => (next r).allocatedBy a s := by
  rw [allocatedBy]
  · intro modes size _ same
    exact absurd same (ofAcquire modes size)
  · intro slaveName _ same
    exact absurd same (ofRelease slaveName)

/-- A round of a loop with an allocator in charge is a round of the loop's body, and takes the
allocator's new state along. -/
theorem exists_of_yields_round {τ β : Type} {a : Allocator σ} {p : Program (τ ⊕ β)} {s : σ}
    {t' : List Exchange} {b : τ × σ ⊕ β × σ}
    (ofBody : ∀ {s s' : σ} {t' : List Exchange} {x : τ ⊕ β},
      (p.allocatedBy a s).Yields t' (x, s') → ∃ t, p.Yields t x ∧ a.Serves s t t' s')
    (run : ((p.allocatedBy a s).bind fun r => Program.done (match r.1 with
      | .inl state => .inl (state, r.2)
      | .inr b => .inr (b, r.2))).Yields t' b) :
    (∃ state s' t, b = .inl (state, s') ∧ p.Yields t (.inl state) ∧ a.Serves s t t' s') ∨
      ∃ y s' t, b = .inr (y, s') ∧ p.Yields t (.inr y) ∧ a.Serves s t t' s' := by
  obtain ⟨t₁, ⟨x, s'⟩, t₂, rfl, round, last⟩ := yields_bind_iff.1 run
  obtain ⟨rfl, rfl⟩ := yields_done_iff.1 last
  obtain ⟨t, alone, serves⟩ := ofBody round
  rw [List.append_nil]
  cases x with
  | inl state => exact .inl ⟨state, s', t, rfl, alone, serves⟩
  | inr y => exact .inr ⟨y, s', t, rfl, alone, serves⟩

/-- A run with an allocator in charge is a run of the program by itself, whose requests for
terminals the allocator has answered. -/
theorem exists_of_yields_allocatedBy {a : Allocator σ} {p : Program α} {s s' : σ}
    {t' : List Exchange} {x : α} (run : (p.allocatedBy a s).Yields t' (x, s')) :
    ∃ t, p.Yields t x ∧ a.Serves s t t' s' := by
  induction p generalizing s s' t' with
  | done x =>
    obtain ⟨rfl, same⟩ := yields_done_iff.1 run
    cases same
    exact ⟨[], .done _, .nil _⟩
  | call c next ih =>
    by_cases ofAcquire : ∃ modes size, c = .acquireTerminal modes size
    · obtain ⟨modes, size, rfl⟩ := ofAcquire
      obtain ⟨t₁, ⟨r, s₁⟩, t₂, rfl, asked, rest⟩ := yields_bind_iff.1 run
      obtain ⟨t, alone, serves⟩ := ih r rest
      exact ⟨_, .call alone, .acquire asked serves⟩
    · by_cases ofRelease : ∃ slaveName, c = .releaseTerminal slaveName
      · obtain ⟨slaveName, rfl⟩ := ofRelease
        obtain ⟨t₁, ⟨r, s₁⟩, t₂, rfl, asked, rest⟩ := yields_bind_iff.1 run
        obtain ⟨t, alone, serves⟩ := ih r rest
        exact ⟨_, .call alone, .release asked serves⟩
      · -- No other request is the allocator's business.
        have ofAcquire (modes size) : c ≠ .acquireTerminal modes size :=
          fun h => ofAcquire ⟨modes, size, h⟩
        have ofRelease (slaveName) : c ≠ .releaseTerminal slaveName :=
          fun h => ofRelease ⟨slaveName, h⟩
        rw [allocatedBy_call_of_ne ofAcquire ofRelease] at run
        obtain ⟨r, t', rfl, rest⟩ := yields_call_iff.1 run
        obtain ⟨t, alone, serves⟩ := ih r rest
        exact ⟨_, .call alone, .reply ofAcquire ofRelease serves⟩
  | fork child next _ ih =>
    obtain ⟨r, t', rfl, rest⟩ := yields_fork_iff.1 run
    obtain ⟨t, alone, serves⟩ := ih r rest
    exact ⟨_, .fork alone, .fork serves⟩
  | spawn thread next _ ih =>
    obtain ⟨r, t', rfl, rest⟩ := yields_spawn_iff.1 run
    obtain ⟨t, alone, serves⟩ := ih r rest
    exact ⟨_, .spawn alone, .spawn serves⟩
  | loop state body next ihBody ih =>
    refine Yields.loop_induction (P := fun st t' r => ∃ t, (loop st.1 body next).Yields t r.1 ∧
      a.Serves st.2 t t' r.2) ?_ ?_ run
    · intro st b t₁' t₂' r round rest
      rcases exists_of_yields_round (ihBody st.1) round with
        ⟨_, _, _, ⟨⟩, -⟩ | ⟨y, s₁, t₁, same, alone, serves⟩
      obtain rfl : b = (y, s₁) := by simpa using same
      obtain ⟨t₂, rest, serves'⟩ := ih y rest
      exact ⟨_, .stop alone rest, serves.append serves'⟩
    · rintro st st' t₁' t₂' r round ⟨t₂, rest, serves'⟩
      rcases exists_of_yields_round (ihBody st.1) round with
        ⟨state', s₁, t₁, same, alone, serves⟩ | ⟨_, _, _, ⟨⟩, -⟩
      obtain rfl : st' = (state', s₁) := by simpa using same
      exact ⟨_, .again alone rest, serves.append serves'⟩

end Coprocess
