/-
**Offers.**

An envelope is offered to a worker in three steps: the phase is looked at, the limits are asked what
of the envelope may be sent, and the phase is looked at again as the envelope enters the queue. The
last step is one step for all other calls, so that no envelope enters the queue of a worker that has
left its running phase. Where the queue is full the newcomer is refused.

* `Worker.proceedOffer_phase`: an offer does not change the phase.
* `Worker.enter_queue`: an envelope that is accepted is last in the queue.
-/
import Courier.Worker.Basic
import Courier.Worker.Call
namespace Courier.Worker

variable {φ : Type}

/-- Refuses an envelope: reports it, and counts it as dropped. -/
def refuse (envelope : Envelope) (reason : DropReason) (level : Log.Level) (message : Text → Text)
    (worker : Worker φ) : Worker φ × CallResult :=
  let outcome := (worker.depot.sayOf envelope level .worker message).andThen fun depot =>
    .done (depot.drop reason)
  ({ worker with depot := outcome.depot },
    match outcome.raised with
    | none => .ok false
    | some failure => .error failure)

/-- Refuses an envelope because the worker no longer runs. -/
def refuseStopped (envelope : Envelope) (worker : Worker φ) : Worker φ × CallResult :=
  worker.refuse envelope .stopped .debug fun id =>
    "Dropping envelope " ++ id ++ ": transport is " ++ Text.ofString worker.phase.name

/-- Refuses an envelope because all of it is limited. -/
def refuseLimited (envelope : Envelope) (worker : Worker φ) : Worker φ × CallResult :=
  worker.refuse envelope .rateLimited .debug fun id =>
    "Dropping envelope " ++ id ++ ": rate limited"

/-- Refuses an envelope because the queue has no place. -/
def refuseFull (envelope : Envelope) (worker : Worker φ) : Worker φ × CallResult :=
  worker.refuse envelope .queueFull .warning fun id =>
    "Dropping envelope " ++ id ++ ": queue is full (" ++ Text.ofInt worker.capacity ++ " pending)"

/-- Takes a part of an envelope into the queue. -/
def enter (whole part : Envelope) (worker : Worker φ) : Worker φ :=
  let entered := (worker.put (.send part)).note (.accepted whole part)
  { entered with depot := entered.depot.count Ledger.accept }.measure

/-- What the limits leave of an envelope. -/
def allow (envelope : Envelope) (worker : Worker φ) : Option Envelope :=
  if worker.limited then worker.depot.allow envelope else some envelope

/-- An offer that ends with a result. -/
def overWith (envelope : Envelope) (ending : Worker φ × CallResult) : Worker φ × Offer :=
  (ending.1, .ended envelope ending.2)

/-- The next step of an offer. -/
def proceedOffer (offer : Offer) (worker : Worker φ) : Option (Worker φ × Offer) :=
  match offer with
  | .made envelope =>
    if worker.phase = .running then some (worker, .received envelope)
    else some (overWith envelope (worker.refuseStopped envelope))
  | .received envelope =>
    match worker.allow envelope with
    | none => some (overWith envelope (worker.refuseLimited envelope))
    | some part => some (worker, .filtered envelope part)
  | .filtered whole part =>
    if worker.phase = .running then
      if worker.hasRoom then some (worker.enter whole part, .ended whole (.ok true))
      else some (overWith whole (worker.refuseFull part))
    else some (overWith whole (worker.refuseStopped part))
  | .ended .. => none

theorem refuse_phase (envelope : Envelope) (reason : DropReason) (level : Log.Level)
    (message : Text → Text) (worker : Worker φ) :
    (worker.refuse envelope reason level message).1.phase = worker.phase :=
  rfl

theorem refuse_queue (envelope : Envelope) (reason : DropReason) (level : Log.Level)
    (message : Text → Text) (worker : Worker φ) :
    (worker.refuse envelope reason level message).1.queue = worker.queue :=
  rfl

theorem enter_queue (whole part : Envelope) (worker : Worker φ) :
    (worker.enter whole part).queue = worker.queue ++ [.send part] :=
  rfl

theorem proceedOffer_phase {offer next : Offer} {worker after : Worker φ}
    (step : worker.proceedOffer offer = some (after, next)) : after.phase = worker.phase := by
  cases offer with
  | made envelope =>
    unfold proceedOffer at step
    simp only at step
    split at step
    · cases step
      rfl
    · cases step
      rfl
  | received envelope =>
    unfold proceedOffer at step
    simp only at step
    split at step
    · cases step
      rfl
    · cases step
      rfl
  | filtered whole part =>
    unfold proceedOffer at step
    simp only at step
    split at step
    · split at step
      · cases step
        rfl
      · cases step
        rfl
    · cases step
      rfl
  | ended envelope result => cases step

end Courier.Worker
