/-
**Delivery.**

An envelope is written, the request is sent, and the answer is taken in: the response is counted,
its signal is applied to the limits, a refusal is reported, and the body is read to its end. A
request that is not carried out is a drop like others; any other failure is raised further. How long
a submission took is noted in every case in which the envelope could be written.

A delivery has two halves, between which the request is on its way: `Delivery.begin` and
`Delivery.finish`.

* `Delivery.begin_unserializable`: an envelope that cannot be written is dropped without a request.
* `Delivery.finish_duration`: a delivery that was under way notes one duration, however it ends.
-/
import Courier.Delivery.Redirect
import Courier.Destination.Basic
import Courier.Envelope.Wire
import Courier.Submission
namespace Courier

/-- What comes of a request. -/
inductive Reply
  /-- The server answers. -/
  | response (response : Response)
  /-- The client raises a failure instead. -/
  | failure (failure : Failure)

/-- A delivery whose request is on its way. -/
structure Flight where
  envelope : Envelope
  /-- What the steady clock showed when the delivery began. -/
  started : Binary64
  request : Request

namespace Delivery

/-- Notes how long a submission took. -/
def observe (started : Binary64) (depot : Depot) : Depot :=
  depot.count (Ledger.observe (depot.clock.now - started))

/-- Reports that an envelope cannot be written, and drops it. -/
def dropUnwritten (error : Envelope.WireError) (id : Text) (depot : Depot) : Depot :=
  (depot.report ⟨.error, .delivery, "Dropping envelope " ++ id ++ ": " ++ error.message, some id,
    none⟩).drop .serialization

/-- The first half: writes the envelope and sends the request. -/
def begin (destination : Destination) (envelope : Envelope) (depot : Depot) :
    Begun Flight :=
  match envelope.toBytes with
  | .error (.unserializable cause id) =>
    .ended (.done (dropUnwritten (.unserializable cause id) id depot))
  | .error (.unnameable fault) => .ended (.raise (.ofTooManyDigits fault) depot)
  | .ok body =>
    match Request.make destination.endpoint destination.auth body with
    | .error failure =>
      .ended ((Outcome.raise failure depot).afterwards (observe depot.clock.now))
    | .ok request => .underWay ⟨envelope, depot.clock.now, request⟩ depot

/-- The most characters of a body that are reported. -/
def reportedLength : Nat :=
  512

/-- Drops an envelope whose request was not carried out; raises any other failure further. -/
def fail (envelope : Envelope) (failure : Failure) (depot : Depot) : Outcome :=
  if failure.family = .transport then
    (depot.markOf envelope .warning .delivery fun id =>
      "Failed to send envelope " ++ id ++ ": " ++ failure.message).andThen fun depot =>
        .done (depot.drop .transportError)
  else .raise failure depot

/-- Reports a status that refuses the envelope. -/
def reportRefusal (envelope : Envelope) (response : Response) (depot : Depot) : Outcome :=
  if response.isError then
    depot.markOf envelope .warning .delivery fun id =>
      "Envelope " ++ id ++ " rejected with status " ++ Text.ofInt response.status
  else .done depot

/-- Reads the body to its end and reports what it says. A body that breaks off with a failed
exchange is reported too; any other failure is raised further. -/
def readBody (envelope : Envelope) (response : Response) (depot : Depot) : Outcome :=
  match response.broken with
  | none =>
    depot.naming envelope fun id depot =>
      match response.text with
      | .error fault => .raise (.ofMissingMark fault) depot
      | .ok body => .done (depot.say .debug .delivery
          ("Got response " ++ Text.ofInt response.status ++ " for " ++ id ++ ": " ++
            body.take reportedLength))
  | some failure =>
    if failure.family = .transport || failure.family = .exchange then
      depot.sayOf envelope .debug .delivery fun id =>
        "Failed to read response for " ++ id ++ ": " ++ failure.message
    else .raise failure depot

/-- Takes a response in. -/
def takeIn (envelope : Envelope) (response : Response) (depot : Depot) : Outcome :=
  let counted := depot.count (Ledger.respond response.status)
  match counted.apply response.signal with
  | .error _ => .raise .tooLarge counted
  | .ok applied =>
    (reportRefusal envelope response applied).andThen (readBody envelope response)

/-- Takes in what came of the request. -/
def settle (flight : Flight) (reply : Reply) (depot : Depot) : Outcome :=
  match reply with
  | .failure failure => fail flight.envelope failure depot
  | .response response =>
    match Redirect.refusal? flight.request response with
    | some failure => fail flight.envelope failure depot
    | none => takeIn flight.envelope response depot

/-- The second half: takes in what came of the request and notes how long it took. -/
def finish (flight : Flight) (reply : Reply) (depot : Depot) : Outcome :=
  (settle flight reply depot).afterwards (observe flight.started)

/-- Submission over HTTP. -/
def submitter (destination : Destination) : Submitter Flight Reply where
  begin := begin destination
  finish := finish

theorem begin_unserializable {destination : Destination} {envelope : Envelope} {depot : Depot}
    {cause : Envelope.LineFault} {id : Text}
    (unwritten : envelope.toBytes = .error (.unserializable cause id)) :
    begin destination envelope depot =
      .ended (.done (dropUnwritten (.unserializable cause id) id depot)) := by
  unfold begin
  rw [unwritten]

theorem finish_duration (flight : Flight) (reply : Reply) (depot : Depot) :
    (finish flight reply depot).depot.ledger.durations =
      (settle flight reply depot).depot.ledger.durations ++
        [(settle flight reply depot).depot.clock.now - flight.started] :=
  rfl

end Delivery

end Courier
