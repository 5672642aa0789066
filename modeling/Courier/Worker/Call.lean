/-
**Calls to a worker.**

Many callers use one worker at the same time. Each call goes through a few steps, and between any
two of them the worker and the other calls may move. What is written here is how far a call has
come; the steps themselves are elsewhere.

* `Call.isOver_iff`: a call is over exactly when it has a result.
-/
import Courier.Envelope.Basic
import Courier.Failure
import Courier.Number.Binary64
namespace Courier

/-- What a call ends with. -/
abbrev CallResult := Except Failure Bool

/-- How far the offer of an envelope has come. -/
inductive Offer
  /-- The envelope is offered. -/
  | made (envelope : Envelope)
  /-- The worker was running when it was looked at. -/
  | received (envelope : Envelope)
  /-- What of the envelope may be sent. -/
  | filtered (whole part : Envelope)
  /-- The envelope was accepted or refused. -/
  | ended (envelope : Envelope) (result : CallResult)

/-- How far a flush has come. -/
inductive Flush
  /-- A flush is asked for. -/
  | asked
  /-- Its marker waits for a place in the queue. -/
  | placing
  /-- Its marker is in the queue. -/
  | waiting
  /-- The marker was reached, or the caller gave up. -/
  | ended (result : CallResult)

/-- How far a shutdown has come. -/
inductive Shutdown
  /-- A shutdown is asked for. -/
  | asked
  /-- The worker drains, and a flush is under way. -/
  | flushing (flush : Flush)
  /-- The flush is over. -/
  | flushed (answer : Bool)
  /-- The worker is stopped, and its thread is awaited. -/
  | joining (answer : Bool)
  /-- The thread has ended, or the caller gave up. -/
  | ended (result : CallResult)

/-- A call to a worker. Those that wait have a number of seconds for which they are willing to. -/
inductive Call
  | enqueue (progress : Offer)
  | flush (seconds : Binary64) (progress : Flush)
  | shutdown (seconds : Binary64) (progress : Shutdown)

namespace Call

/-- What a call has ended with. -/
def result? : Call → Option CallResult
  | enqueue (.ended _ result) => some result
  | flush _ (.ended result) => some result
  | shutdown _ (.ended result) => some result
  | _ => none

/-- The call is over. -/
def isOver (call : Call) : Bool :=
  call.result?.isSome

theorem isOver_iff (call : Call) : call.isOver ↔ ∃ result, call.result? = some result :=
  Option.isSome_iff_exists

end Call

/-- The most steps that an offer still takes. -/
def Offer.ahead : Offer → Nat
  | made _ => 3
  | received _ => 2
  | filtered .. => 1
  | ended .. => 0

/-- The most steps that a flush still takes. -/
def Flush.ahead : Flush → Nat
  | asked => 3
  | placing => 2
  | waiting => 1
  | ended _ => 0

/-- The most steps that a shutdown still takes. -/
def Shutdown.ahead : Shutdown → Nat
  | asked => 7
  | flushing flush => flush.ahead + 3
  | flushed _ => 2
  | joining _ => 1
  | ended _ => 0

/-- The most steps that a call still takes. -/
def Call.ahead : Call → Nat
  | enqueue progress => progress.ahead
  | flush _ progress => progress.ahead
  | shutdown _ progress => progress.ahead

end Courier
