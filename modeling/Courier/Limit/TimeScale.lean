/-
**Scales of time.**

Limits are instants on the scale of a clock. What is done with them needs only sums, differences
and an order, and durations placed on the scale, so it is written for any scale. The transport's
clock shows binary64 numbers; on the scale of whole units of `2 ^ -1074` seconds the same rules
hold without rounding.

* `TimeScale.ofSeconds_exact`: a finite duration is exact on the scale of units.
-/
import Courier.Number.Binary64
namespace Courier

/-- A scale on which instants and spans of time are told. -/
class TimeScale (τ : Type) extends Add τ, Sub τ, LT τ where
  decidableLt : DecidableLT τ
  /-- The origin. -/
  origin : τ
  /-- The span of a number of seconds. -/
  ofSeconds : Binary64 → τ

namespace TimeScale

instance {τ : Type} [TimeScale τ] : DecidableLT τ :=
  decidableLt

/-- Readings of the transport's clock, in seconds. -/
instance : TimeScale Binary64 where
  decidableLt := inferInstance
  origin := 0
  ofSeconds := id

/-- Exact times, in units of `2 ^ -1074` seconds. -/
instance : TimeScale Int where
  decidableLt := inferInstance
  origin := 0
  ofSeconds
    | .finite negative units => Binary64.signedUnits negative units
    | _ => 0

theorem ofSeconds_exact (negative : Bool) (units : Nat) :
    (ofSeconds (.finite negative units) : Int) = Binary64.signedUnits negative units :=
  rfl

/-- The later of two times; the first, unless the second is strictly after it. -/
def later {τ : Type} [TimeScale τ] (s t : τ) : τ :=
  if s < t then t else s

end TimeScale

end Courier
