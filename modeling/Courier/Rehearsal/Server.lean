/-
**Scripted servers.**

For rehearsing a transport, the replies of the server are a list that is used up in order; after it
the server accepts everything with an empty body.

* `Server.direction_cue_nil`: the reply after the last one.
-/
import Courier.Rehearsal.Basic
import Courier.Transport
namespace Courier.Server

/-- The reply that accepts a request. -/
def accepting : Cue Reply :=
  ⟨false, 0, 0, .response ⟨200, [], [], none⟩⟩

/-- The direction of a rehearsal with a list of replies. -/
def direction (destination : Destination) : Direction Flight Reply (List (Cue Reply)) where
  submitter := Delivery.submitter destination
  cue _ replies := (replies.headD accepting, replies.tail)

theorem direction_cue_nil (destination : Destination) (flight : Flight) :
    (direction destination).cue flight [] = (accepting, []) :=
  rfl

end Courier.Server
