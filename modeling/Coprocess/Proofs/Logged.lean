import Coprocess.Logging
import Coprocess.Proofs.Allocation

/-!
# Runs under a log

A program with a log in charge runs as it does by itself, except that what it tells is written by
the log, or by nobody.  With an allocator in charge it is the same for the requests for terminals.
All else that the program asks for by itself is asked for under both, in the same order and with the
same answers: `Within` says so of two traces.  A thread that is refused is refused under both
(`RefusesThread`).

Main statements:
* `logs_of_yields_loggedBy` and `Logs.within`, for a log;
* `Allocator.Serves.within` and `Allocator.Serves.refusesThread`, for an allocator.
-/

namespace Coprocess

open Host Program

variable {α σ : Type} {t t' t'' t₁ t₂ : List Exchange}

/-- The exchange is a request that goes to the host, whatever log and allocator are in charge. -/
def Host.Exchange.isDirect : Exchange → Bool
  | .reply (.log _) _ => false
  | .reply (.acquireTerminal _ _) _ => false
  | .reply (.releaseTerminal _) _ => false
  | .reply _ _ => true
  | .fork _ _ => false
  | .spawn _ _ => false

/-- The requests of `t` that go to the host are among the exchanges of `t'`, in the same order and
with the same answers. -/
def Within (t t' : List Exchange) : Prop := (t.filter Exchange.isDirect).Sublist t'

namespace Within

theorem nil (t : List Exchange) : Within [] t := List.nil_sublist t

theorem refl (t : List Exchange) : Within t t := List.filter_sublist

theorem trans (first : Within t t') (second : Within t' t'') : Within t t'' := by
  have direct : (t.filter Exchange.isDirect).filter Exchange.isDirect =
      t.filter Exchange.isDirect := by
    rw [List.filter_filter]
    simp only [Bool.and_self]
  unfold Within at *
  rw [← direct]
  exact (first.filter _).trans second

theorem append {t₁' t₂' : List Exchange} (first : Within t₁ t₁') (second : Within t₂ t₂') :
    Within (t₁ ++ t₂) (t₁' ++ t₂') := by
  rw [Within, List.filter_append]
  exact List.Sublist.append first second

theorem append_left (t₁ : List Exchange) (within : Within t t₂) : Within t (t₁ ++ t₂) :=
  (nil t₁).append within

theorem append_right (t₂ : List Exchange) (within : Within t t₁) : Within t (t₁ ++ t₂) := by
  have whole := within.append (nil t₂)
  rwa [List.append_nil] at whole

theorem cons (x : Exchange) (within : Within t t') : Within (x :: t) (x :: t') :=
  (refl [x]).append within

/-- What does not go to the host leaves nothing behind. -/
theorem skip {x : Exchange} (other : x.isDirect = false) (within : Within t t') :
    Within (x :: t) t' := by
  rw [Within, List.filter_cons_of_neg (by simp [other])]
  exact within

end Within

/-- A thread that the program wants to start is refused. -/
def RefusesThread (t : List Exchange) : Prop :=
  ∃ thread reason, Exchange.spawn thread (.error reason) ∈ t

namespace RefusesThread

theorem append_left (t₁ : List Exchange) (refuses : RefusesThread t) : RefusesThread (t₁ ++ t) := by
  obtain ⟨thread, reason, listed⟩ := refuses
  exact ⟨thread, reason, List.mem_append_right t₁ listed⟩

theorem append_right (t₂ : List Exchange) (refuses : RefusesThread t) :
    RefusesThread (t ++ t₂) := by
  obtain ⟨thread, reason, listed⟩ := refuses
  exact ⟨thread, reason, List.mem_append_left t₂ listed⟩

/-- Nothing but the start of a thread refuses one. -/
theorem of_cons {x : Exchange} (refuses : RefusesThread (x :: t))
    (other : ∀ thread r, x ≠ .spawn thread r) : RefusesThread t := by
  obtain ⟨thread, reason, listed⟩ := refuses
  rcases List.mem_cons.1 listed with rfl | listed
  · exact absurd rfl (other thread _)
  · exact ⟨thread, reason, listed⟩

/-- What is made of the start of a thread is refused if that is. -/
theorem of_spawn {thread thread' : Program Unit} {r : Except Errno Unit}
    (rest : RefusesThread t → RefusesThread t') (refuses : RefusesThread (.spawn thread r :: t)) :
    RefusesThread (.spawn thread' r :: t') := by
  obtain ⟨other, reason, listed⟩ := refuses
  rcases List.mem_cons.1 listed with same | listed
  · cases same
    exact ⟨thread', reason, List.mem_cons_self⟩
  · exact (rest ⟨other, reason, listed⟩).append_left [_]

end RefusesThread

theorem Allocator.Serves.refusesThread {a : Allocator σ} {s s' : σ} (serves : a.Serves s t t' s')
    (refuses : RefusesThread t) : RefusesThread t' := by
  induction serves with
  | nil => exact refuses
  | acquire _ _ ih => exact (ih (refuses.of_cons nofun)).append_left _
  | release _ _ ih => exact (ih (refuses.of_cons nofun)).append_left _
  | reply _ _ _ ih => exact (ih (refuses.of_cons nofun)).append_left [_]
  | fork _ ih => exact (ih (refuses.of_cons nofun)).append_left [_]
  | spawn _ ih => exact refuses.of_spawn ih

/-- An allocator is asked instead of the host for terminals, and for nothing else. -/
theorem Allocator.Serves.within {a : Allocator σ} {s s' : σ} (serves : a.Serves s t t' s') :
    Within t t' := by
  induction serves with
  | nil => exact .nil []
  | acquire _ _ ih => exact (ih.append_left _).skip rfl
  | release _ _ ih => exact (ih.append_left _).skip rfl
  | reply _ _ _ ih => exact ih.cons _
  | fork _ ih => exact (ih.append_left [_]).skip rfl
  | spawn _ ih => exact (ih.append_left [_]).skip rfl

theorem loggedBy_call_of_ne {log : Logging} {c : Call} {next : c.Reply → Program α}
    (other : ∀ e, c ≠ .log e) :
    (call c next).loggedBy log = call c fun r => (next r).loggedBy log := by
  rw [loggedBy]
  intro e _ same
  exact absurd same (other e)

/-! ### What a log makes of a trace -/

/-- What the program takes part in as the exchanges of the first trace is the second for the host,
if the log is in charge: an event that is told is written, or not, as the log says. -/
inductive Logs (log : Logging) : List Exchange → List Exchange → Prop
  | nil : Logs log [] []
  | told {e : Event} {written rest rest' : List Exchange} : (log.emit e).Yields written () →
      Logs log rest rest' → Logs log (.reply (.log e) () :: rest) (written ++ rest')
  | reply {c : Call} {r : c.Reply} {rest rest' : List Exchange} : (∀ e, c ≠ .log e) →
      Logs log rest rest' → Logs log (.reply c r :: rest) (.reply c r :: rest')
  | fork {child : Program Unit} {r : Except Errno Pid} {rest rest' : List Exchange} :
      Logs log rest rest' →
      Logs log (.fork child r :: rest) (.fork (child.loggedBy log) r :: rest')
  | spawn {thread : Program Unit} {r : Except Errno Unit} {rest rest' : List Exchange} :
      Logs log rest rest' →
      Logs log (.spawn thread r :: rest) (.spawn (thread.loggedBy log) r :: rest')

namespace Logs

variable {log : Logging}

theorem append {t₁' t₂' : List Exchange} (first : Logs log t₁ t₁') (second : Logs log t₂ t₂') :
    Logs log (t₁ ++ t₂) (t₁' ++ t₂') := by
  induction first with
  | nil => exact second
  | told written _ ih =>
    rw [List.append_assoc]
    exact .told written ih
  | reply other _ ih => exact .reply other ih
  | fork _ ih => exact .fork ih
  | spawn _ ih => exact .spawn ih

/-- What a log makes of one trace after another is what it makes of the first, and then of the
second. -/
theorem exists_of_append (logs : Logs log (t₁ ++ t₂) t') :
    ∃ t₁' t₂', t' = t₁' ++ t₂' ∧ Logs log t₁ t₁' ∧ Logs log t₂ t₂' := by
  induction t₁ generalizing t' with
  | nil => exact ⟨[], t', rfl, .nil, logs⟩
  | cons x t₁ ih =>
    cases logs with
    | told written rest =>
      obtain ⟨t₁', t₂', rfl, first, second⟩ := ih rest
      exact ⟨_, t₂', (List.append_assoc ..).symm, .told written first, second⟩
    | reply other rest =>
      obtain ⟨t₁', t₂', rfl, first, second⟩ := ih rest
      exact ⟨_, t₂', rfl, .reply other first, second⟩
    | fork rest =>
      obtain ⟨t₁', t₂', rfl, first, second⟩ := ih rest
      exact ⟨_, t₂', rfl, .fork first, second⟩
    | spawn rest =>
      obtain ⟨t₁', t₂', rfl, first, second⟩ := ih rest
      exact ⟨_, t₂', rfl, .spawn first, second⟩

theorem refusesThread (logs : Logs log t t') (refuses : RefusesThread t) : RefusesThread t' := by
  induction logs with
  | nil => exact refuses
  | told _ _ ih => exact (ih (refuses.of_cons nofun)).append_left _
  | reply _ _ ih => exact (ih (refuses.of_cons nofun)).append_left [_]
  | fork _ ih => exact (ih (refuses.of_cons nofun)).append_left [_]
  | spawn _ ih => exact refuses.of_spawn ih

/-- Only what is told is replaced. -/
theorem within (logs : Logs log t t') : Within t t' := by
  induction logs with
  | nil => exact .nil []
  | told _ _ ih => exact (ih.append_left _).skip rfl
  | reply _ _ ih => exact ih.cons _
  | fork _ ih => exact (ih.append_left [_]).skip rfl
  | spawn _ ih => exact (ih.append_left [_]).skip rfl

end Logs

/-- A run with a log in charge is a run of the program by itself, and the log has written what was
told. -/
theorem logs_of_yields_loggedBy {log : Logging} {p : Program α} {x : α}
    (run : (p.loggedBy log).Yields t' x) : ∃ t, p.Yields t x ∧ Logs log t t' := by
  induction p generalizing t' with
  | done a =>
    obtain ⟨rfl, rfl⟩ := yields_done_iff.1 run
    exact ⟨[], .done _, .nil⟩
  | call c next ih =>
    by_cases told : ∃ e, c = .log e
    · obtain ⟨e, rfl⟩ := told
      obtain ⟨t₁, r, t₂, rfl, written, rest⟩ := yields_bind_iff.1 run
      obtain ⟨t, alone, logs⟩ := ih r rest
      exact ⟨_, .call alone, .told written logs⟩
    · -- All else is asked for as it is.
      have other (e : Event) : c ≠ .log e := fun same => told ⟨e, same⟩
      rw [loggedBy_call_of_ne other] at run
      obtain ⟨r, t', rfl, rest⟩ := yields_call_iff.1 run
      obtain ⟨t, alone, logs⟩ := ih r rest
      exact ⟨_, .call alone, .reply other logs⟩
  | fork child next _ ih =>
    obtain ⟨r, t', rfl, rest⟩ := yields_fork_iff.1 run
    obtain ⟨t, alone, logs⟩ := ih r rest
    exact ⟨_, .fork alone, .fork logs⟩
  | spawn thread next _ ih =>
    obtain ⟨r, t', rfl, rest⟩ := yields_spawn_iff.1 run
    obtain ⟨t, alone, logs⟩ := ih r rest
    exact ⟨_, .spawn alone, .spawn logs⟩
  | loop s body next ihBody ih =>
    refine Yields.loop_induction (P := fun s t' x => ∃ t, (loop s body next).Yields t x ∧
      Logs log t t') ?_ ?_ run
    · intro s b t₁' t₂' x round rest
      obtain ⟨t₁, alone, logs⟩ := ihBody s round
      obtain ⟨t₂, rest, logs'⟩ := ih b rest
      exact ⟨_, .stop alone rest, logs.append logs'⟩
    · rintro s s' t₁' t₂' x round ⟨t₂, rest, logs'⟩
      obtain ⟨t₁, alone, logs⟩ := ihBody s round
      exact ⟨_, .again alone rest, logs.append logs'⟩

end Coprocess
