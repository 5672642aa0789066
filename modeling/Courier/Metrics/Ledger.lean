/-
**The ledger.**

The transport counts what becomes of envelopes: those accepted into the queue, those dropped and
why, the responses by status, the updates of the limits by signal. It also keeps how long each
submission took and how many tasks wait.

* `Ledger.drop_total`, `Ledger.respond_total`: each event is counted once.
-/
import Courier.Metrics.Tally
import Courier.Number.Binary64
namespace Courier

/-- Why an envelope was dropped. -/
inductive DropReason
  /-- The transport no longer takes envelopes. -/
  | stopped
  /-- Every item is limited. -/
  | rateLimited
  /-- The queue has no place. -/
  | queueFull
  /-- The envelope has no wire form. -/
  | serialization
  /-- The request was not carried out. -/
  | transportError
  deriving DecidableEq

/-- The name of a reason. -/
def DropReason.name : DropReason → String
  | stopped => "stopped"
  | rateLimited => "rate_limited"
  | queueFull => "queue_full"
  | serialization => "serialization"
  | transportError => "transport_error"

/-- The counts of the transport. -/
structure Ledger where
  /-- Envelopes accepted into the queue. -/
  enqueued : Nat
  /-- Dropped envelopes. -/
  dropped : Tally DropReason
  /-- Responses, by status. -/
  responses : Tally Int
  /-- Updates of the limits, by the name of the signal. -/
  updates : Tally String
  /-- The seconds that each submission took, in order. -/
  durations : List Binary64
  /-- Tasks that wait in the queue. -/
  depth : Nat

namespace Ledger

/-- Nothing has happened yet. -/
def empty : Ledger :=
  ⟨0, .empty, .empty, .empty, [], 0⟩

/-- Counts an accepted envelope. -/
def accept (ledger : Ledger) : Ledger :=
  { ledger with enqueued := ledger.enqueued + 1 }

/-- Counts a dropped envelope. -/
def drop (reason : DropReason) (ledger : Ledger) : Ledger :=
  { ledger with dropped := ledger.dropped.add reason }

/-- Counts a response. -/
def respond (status : Int) (ledger : Ledger) : Ledger :=
  { ledger with responses := ledger.responses.add status }

/-- Counts an update of the limits. -/
def update (signal : String) (ledger : Ledger) : Ledger :=
  { ledger with updates := ledger.updates.add signal }

/-- Notes how long a submission took. -/
def observe (seconds : Binary64) (ledger : Ledger) : Ledger :=
  { ledger with durations := ledger.durations ++ [seconds] }

/-- Notes how many tasks wait. -/
def setDepth (depth : Nat) (ledger : Ledger) : Ledger :=
  { ledger with depth }

theorem drop_total (reason : DropReason) (ledger : Ledger) :
    (ledger.drop reason).dropped.total = ledger.dropped.total + 1 :=
  Tally.total_add ..

theorem respond_total (status : Int) (ledger : Ledger) :
    (ledger.respond status).responses.total = ledger.responses.total + 1 :=
  Tally.total_add ..

end Ledger

end Courier
