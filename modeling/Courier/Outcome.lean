/-
**Outcomes.**

What an action leaves behind: the depot, whatever happened, and the failure that was raised out of
it, if there was one. Actions are put together so that a failure ends them.

* `Outcome.andThen_raised`: after a failure nothing more is done.
-/
import Courier.Depot
import Courier.Failure.Cause
namespace Courier

/-- What an action leaves. -/
structure Outcome where
  depot : Depot
  /-- What was raised out of the action. -/
  raised : Option Failure

namespace Outcome

/-- The action ended well. -/
def done (depot : Depot) : Outcome :=
  ⟨depot, none⟩

/-- The action raised a failure. -/
def raise (failure : Failure) (depot : Depot) : Outcome :=
  ⟨depot, some failure⟩

/-- Goes on after an action that ended well. -/
def andThen (outcome : Outcome) (next : Depot → Outcome) : Outcome :=
  match outcome.raised with
  | none => next outcome.depot
  | some _ => outcome

/-- Changes the depot, whether a failure was raised or not. -/
def afterwards (change : Depot → Depot) (outcome : Outcome) : Outcome :=
  { outcome with depot := change outcome.depot }

theorem andThen_done (depot : Depot) (next : Depot → Outcome) :
    (done depot).andThen next = next depot :=
  rfl

theorem andThen_raised (failure : Failure) (depot : Depot) (next : Depot → Outcome) :
    (raise failure depot).andThen next = raise failure depot :=
  rfl

end Outcome

namespace Depot

/-- Does `next` with the name of an envelope; the name may have too many digits to be written. -/
def naming (envelope : Envelope) (depot : Depot) (next : Text → Depot → Outcome) : Outcome :=
  match envelope.id with
  | .ok id => next id depot
  | .error fault => .raise (.ofTooManyDigits fault) depot

/-- Reports something about a named envelope. -/
def sayOf (envelope : Envelope) (level : Log.Level) (source : Log.Source) (message : Text → Text)
    (depot : Depot) : Outcome :=
  depot.naming envelope fun id depot => .done (depot.say level source (message id))

/-- Reports something about a named envelope, and marks the report with the name. -/
def markOf (envelope : Envelope) (level : Log.Level) (source : Log.Source) (message : Text → Text)
    (depot : Depot) : Outcome :=
  depot.naming envelope fun id depot => .done (depot.report ⟨level, source, message id, some id, none⟩)

end Depot

end Courier
