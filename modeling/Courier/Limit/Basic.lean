/-
**Rate limits.**

For each category that was ever limited, the instant at which the limit ends. The wildcard's
instant counts for every category. A limit that has ended stays in the table until it is
overwritten, and says nothing.

* `Limits.reset?_write`: writing a category changes that category alone.
* `Limits.isLimited_iff`: a category is limited when its instant, or the wildcard's, is ahead.
-/
import Courier.Envelope.Basic
import Courier.Keyed
import Courier.Limit.TimeScale
namespace Courier

/-- The instants at which limits end, in the order in which their categories were first limited. -/
structure Limits (τ : Type) where
  resets : Keyed Category τ

namespace Limits

variable {τ : Type}

/-- No limits. -/
def empty : Limits τ :=
  ⟨[]⟩

/-- The instant at which the limit of a category ends. -/
def reset? (category : Category) (limits : Limits τ) : Option τ :=
  Keyed.get? category limits.resets

/-- Sets the instant of a category. -/
def write (category : Category) (reset : τ) (limits : Limits τ) : Limits τ :=
  ⟨Keyed.put category reset limits.resets⟩

theorem reset?_write (category other : Category) (reset : τ) (limits : Limits τ) :
    (limits.write category reset).reset? other =
      if other = category then some reset else limits.reset? other :=
  Keyed.get?_put category other reset limits.resets

section Reading

variable [TimeScale τ]

/-- Limits a category for a number of seconds from now on. -/
def limit (now : τ) (seconds : Binary64) (category : Category) (limits : Limits τ) : Limits τ :=
  limits.write category (now + TimeScale.ofSeconds seconds)

/-- The instant until which a category is limited, by its own limit or the wildcard's; the origin
if neither was ever set. -/
def limitedUntil (category : Category) (limits : Limits τ) : τ :=
  TimeScale.later ((limits.reset? category).getD TimeScale.origin)
    ((limits.reset? .any).getD TimeScale.origin)

/-- How long a category is still limited, if it is. -/
def remaining? (now : τ) (category : Category) (limits : Limits τ) : Option τ :=
  let remaining := limits.limitedUntil category - now
  if TimeScale.origin < remaining then some remaining else none

/-- A category must not be sent now. -/
def isLimited (now : τ) (category : Category) (limits : Limits τ) : Bool :=
  (limits.remaining? now category).isSome

/-- The envelope with only the items that may be sent now, if there is one. -/
def allow (now : τ) (limits : Limits τ) (envelope : Envelope) : Option Envelope :=
  envelope.filter fun item => !limits.isLimited now item.category

/-- The limits that have not ended, with the time that remains. -/
def active (now : τ) (limits : Limits τ) : List (Category × τ) :=
  (limits.resets.filter fun entry => now < entry.2).map fun entry => (entry.1, entry.2 - now)

theorem isLimited_iff (now : τ) (category : Category) (limits : Limits τ) :
    limits.isLimited now category ↔ TimeScale.origin < limits.limitedUntil category - now := by
  unfold isLimited remaining?
  simp only
  split
  · simp [*]
  · simp [*]

theorem reset?_limit (now : τ) (seconds : Binary64) (category other : Category)
    (limits : Limits τ) :
    (limits.limit now seconds category).reset? other =
      if other = category then some (now + TimeScale.ofSeconds seconds)
      else limits.reset? other :=
  reset?_write ..

end Reading

/-- The limits that have not ended, with the time that remains to the millisecond. -/
def snapshot (now : Binary64) (limits : Limits Binary64) : List (Category × Binary64) :=
  (limits.active now).map fun entry => (entry.1, entry.2.roundTo 3)

/-- A snapshot inside a message. -/
def snapshotText (entries : List (Category × Binary64)) : Text :=
  let parts := entries.map fun entry =>
    Text.quoted entry.1.name ++ ": " ++ entry.2.toText
  "\x7b" ++ Text.join ", " parts ++ "\x7d"

end Limits

end Courier
