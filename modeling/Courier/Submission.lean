/-
**Submission.**

What a worker needs to know about how envelopes are submitted. A submission has two halves, and
between them something is on its way, of which something will come. Most submissions are of
envelopes over HTTP, but a worker works with any.

* `Begun.depot_ended`: a submission that is over leaves the depot of its outcome.
-/
import Courier.Outcome
namespace Courier

/-- A submission after its first half; `φ` is what is on its way. -/
inductive Begun (φ : Type)
  /-- It is over. -/
  | ended (outcome : Outcome)
  /-- Something is on its way. -/
  | underWay (flight : φ) (depot : Depot)

namespace Begun

/-- The depot after the first half. -/
def depot {φ : Type} : Begun φ → Depot
  | ended outcome => outcome.depot
  | underWay _ depot => depot

theorem depot_ended {φ : Type} (outcome : Outcome) : (ended outcome : Begun φ).depot = outcome.depot :=
  rfl

end Begun

/-- How envelopes are submitted; `ρ` is what may come of what is on its way. -/
structure Submitter (φ ρ : Type) where
  /-- The first half. -/
  begin : Envelope → Depot → Begun φ
  /-- The second half. -/
  finish : φ → ρ → Depot → Outcome

end Courier
