/-
**Acted submissions.**

For rehearsing a worker alone, submissions over HTTP are replaced by acted ones: each envelope has
an act by its name, which may change the limits and may raise a failure.

* `Act.submitter_finish_plain`: an act that does nothing leaves everything as it is.
-/
import Courier.Keyed
import Courier.Rehearsal.Basic
namespace Courier

/-- What an acted submission does. -/
structure Act where
  /-- The header that limits categories, with this value. -/
  header : Option Text
  /-- What is raised in the end. -/
  raised : Option Failure

namespace Act

/-- The act that does nothing. -/
def plain : Act :=
  ⟨none, none⟩

/-- Does an act. -/
def perform (act : Act) (depot : Depot) : Outcome :=
  let after := match act.header with
    | some header => depot.readHeader header
    | none => depot
  ⟨after, act.raised⟩

/-- Acted submission; what is on its way is the name of the envelope. -/
def submitter : Submitter Text Act where
  begin envelope depot :=
    match envelope.id with
    | .ok id => .underWay id depot
    | .error fault => .ended (.raise (.ofTooManyDigits fault) depot)
  finish _ act depot := act.perform depot

/-- Acts by the names of the envelopes. -/
abbrev Table := Keyed Text (Cue Act)

/-- The cue of an envelope without an act. -/
def plainCue : Cue Act :=
  ⟨false, 0, 0, plain⟩

/-- The direction of a rehearsal with acts. -/
def direction : Direction Text Act Table where
  submitter := submitter
  cue id table := ((Keyed.get? id table).getD plainCue, table)

theorem submitter_finish_plain (id : Text) (depot : Depot) :
    submitter.finish id plain depot = .done depot :=
  rfl

end Act

end Courier
