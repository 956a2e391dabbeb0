import Coprocess.Host.World

/-!
# Outcomes of a request

A request is answered at once, or it has to wait, or the process that made it takes on a new image
or ends.  Waiting changes nothing: the request is made again when something else has changed, at the
latest when its deadline has passed.
-/

namespace Coprocess.Host

/-- What comes of a request whose reply is of type `α`. -/
inductive Outcome (α : Type) where
  | reply (value : α) (w : World)
  | later (deadline : Option Instant)
  /-- The process takes on the image of a program that the machine knows. -/
  | image (program : String) (argv envv : List Bytes) (w : World)
  /-- The process has ended. -/
  | gone (w : World)

namespace Outcome

variable {α : Type}

/-- A reply that changes nothing. -/
def same (w : World) (value : α) : Outcome α := .reply value w

/-- The refusal of a request. -/
def refuse (w : World) (reason : Errno) : Outcome (Except Errno α) := .reply (.error reason) w

/-- The reply of a request that was carried out. -/
def carriedOut (w : World) : Outcome (Except Errno Unit) := .reply (.ok ()) w

/-- Either refuses a request or goes on with it. -/
def orRefuse {β : Type} (w : World) (r : Except Errno β) (next : β → Outcome (Except Errno α)) :
    Outcome (Except Errno α) :=
  match r with
  | .ok b => next b
  | .error reason => refuse w reason

end Outcome

end Coprocess.Host
