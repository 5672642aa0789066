/-
**Cues.**

In a rehearsal it is set beforehand what comes of each submission: whether it is held until it is
released, how much time passes, what the wall clock then shows, and the reply.

* `Cue.pass_wall`: the wall clock shows what was set.
-/
import Courier.Depot
namespace Courier

/-- What is set to come of a submission. -/
structure Cue (ρ : Type) where
  /-- The submission waits until it is released. -/
  held : Bool
  /-- The seconds that pass before the reply. -/
  elapsed : Binary64
  /-- What the wall clock shows at the reply. -/
  wall : Int
  reply : ρ

namespace Cue

variable {ρ : Type}

/-- The clocks once the time of a cue has passed. -/
def pass (cue : Cue ρ) (clock : Clock) : Clock :=
  { clock.advance cue.elapsed with wall := cue.wall }

theorem pass_wall (cue : Cue ρ) (clock : Clock) : (cue.pass clock).wall = cue.wall :=
  rfl

end Cue

end Courier
