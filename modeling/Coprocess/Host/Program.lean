import Coprocess.Host.Call

/-!
# Programs

A program is what a process does, as far as the machine can see: it makes requests and goes on
according to the replies.  It says nothing about what the replies are, so that a statement about a
program holds for every machine, and the machine is free in how it answers.

Three things are not requests.  `fork` gives a copy of the process a program of its own, `spawn`
starts a second thread in the same process, and `loop` repeats a body until that yields a result.  A
loop has no bound of its own: whether it ends depends on the replies.
-/

namespace Coprocess.Host

/-- A program whose result is of type `α`. -/
inductive Program : Type → Type 1 where
  | done {α : Type} (value : α) : Program α
  | call {α : Type} (c : Call) (next : c.Reply → Program α) : Program α
  /-- A child process runs `child`; the parent goes on with its number. -/
  | fork {α : Type} (child : Program Unit) (next : Except Errno Pid → Program α) : Program α
  /-- A thread of the same process runs `thread`, if the machine has one to give. -/
  | spawn {α : Type} (thread : Program Unit) (next : Except Errno Unit → Program α) : Program α
  /-- Runs the body from state to state until it yields a result. -/
  | loop {α σ β : Type} (s : σ) (body : σ → Program (σ ⊕ β)) (next : β → Program α) : Program α

namespace Program

variable {α β σ : Type}

/-- One program after another. -/
def bind : Program α → (α → Program β) → Program β
  | done a, f => f a
  | call c next, f => call c fun r => (next r).bind f
  | fork child next, f => fork child fun r => (next r).bind f
  | spawn thread next, f => spawn thread fun r => (next r).bind f
  | loop s body next, f => loop s body fun b => (next b).bind f

instance : Monad Program where
  pure := done
  bind := bind

/-- Makes one request. -/
def request (c : Call) : Program c.Reply := call c done

/-- Ends the process. -/
def exit (code : Nat) : Program α := call (.exit code) nofun

/-- Runs a body from state to state until it yields a result. -/
def iterate (s : σ) (body : σ → Program (σ ⊕ β)) : Program β := loop s body done

/-- What a loop does next: its body, and then itself again or what follows it. -/
def unroll (s : σ) (body : σ → Program (σ ⊕ β)) (next : β → Program α) : Program α :=
  (body s).bind fun
    | .inl s => loop s body next
    | .inr b => next b

/-- Tells of an event. -/
def tell (e : Event) : Program Unit := request (.log e)

@[simp] theorem bind_eq (p : Program α) (f : α → Program β) : p >>= f = p.bind f := rfl

@[simp] theorem pure_eq (a : α) : (pure a : Program α) = done a := rfl

theorem bind_assoc {γ : Type} (p : Program α) (f : α → Program β) (g : β → Program γ) :
    (p.bind f).bind g = p.bind fun a => (f a).bind g := by
  induction p with
  | done => rfl
  | call c next ih => exact congrArg _ (funext fun r => ih r f)
  | fork child next _ ih => exact congrArg _ (funext fun r => ih r f)
  | spawn thread next _ ih => exact congrArg _ (funext fun r => ih r f)
  | loop s body next _ ih => exact congrArg _ (funext fun b => ih b f)

end Program

end Coprocess.Host
