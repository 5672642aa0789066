/-
**The depot.**

What all parts of the transport share: the clock, the limits, the ledger and the reports made so
far. Every change to the limits passes through here, so that it is counted and reported.

* `Depot.apply_none`: a response without a signal changes nothing.
* `Depot.apply_updates`: a signal is counted once, under its own name.
-/
import Courier.Limit.Update
import Courier.Metrics.Ledger
namespace Courier

/-- What the clocks show. -/
structure Clock where
  /-- The steady clock, in seconds from an arbitrary origin. -/
  now : Binary64
  /-- The wall clock, in microseconds from the first of January 1970. -/
  wall : Int
  deriving DecidableEq

/-- The clock after a span of time; the wall clock is set apart. -/
def Clock.advance (seconds : Binary64) (clock : Clock) : Clock :=
  { clock with now := clock.now + seconds }

/-- What the parts of the transport share. -/
structure Depot where
  clock : Clock
  limits : Limits Binary64
  ledger : Ledger
  /-- The reports, oldest first. -/
  log : List Log.Entry

namespace Depot

/-- A depot in which nothing has happened yet. -/
def opened (clock : Clock) : Depot :=
  ⟨clock, .empty, .empty, []⟩

/-- Adds a report. -/
def report (entry : Log.Entry) (depot : Depot) : Depot :=
  { depot with log := depot.log ++ [entry] }

/-- Adds several reports. -/
def reportAll (entries : List Log.Entry) (depot : Depot) : Depot :=
  { depot with log := depot.log ++ entries }

/-- Adds a report with nothing but a message. -/
def say (level : Log.Level) (source : Log.Source) (message : Text) (depot : Depot) : Depot :=
  depot.report (.plain level source message)

/-- Counts something. -/
def count (entry : Ledger → Ledger) (depot : Depot) : Depot :=
  { depot with ledger := entry depot.ledger }

/-- Counts a dropped envelope. -/
def drop (reason : DropReason) (depot : Depot) : Depot :=
  depot.count (Ledger.drop reason)

/-- Reads the header that limits categories. -/
def readHeader (header : Text) (depot : Depot) : Depot :=
  { depot.reportAll (Limits.headerNotes header) with
    limits := depot.limits.afterHeader depot.clock.now header }

/-- Reads the plain back-off header. -/
def readRetryAfter (value : Text) (depot : Depot) : Except RetryAfter.TooLarge Depot :=
  (depot.limits.afterRetryAfter depot.clock.now depot.clock.wall value).map fun limits =>
    { depot.reportAll (Limits.retryAfterNotes value) with limits }

/-- Limits everything after a refusal. -/
def refuse (depot : Depot) : Depot :=
  { depot with limits := depot.limits.afterRefusal depot.clock.now }

/-- Counts and reports that a signal of this name has changed the limits. -/
def announce (name : String) (depot : Depot) : Depot :=
  let snapshot := Limits.snapshotText (depot.limits.snapshot depot.clock.now)
  (depot.count (Ledger.update name)).say .info .limits
    ("Rate limits updated from " ++ Text.ofString name ++ ": " ++ snapshot)

/-- Does what a signal says. -/
def apply (signal : Signal) (depot : Depot) : Except RetryAfter.TooLarge Depot :=
  match signal with
  | .limits header => .ok ((depot.readHeader header).announce signal.name)
  | .retryAfter value => (depot.readRetryAfter value).map (announce signal.name)
  | .tooManyRequests => .ok (depot.refuse.announce signal.name)
  | .none => .ok depot

/-- The envelope with only the items that may be sent now, if there is one. -/
def allow (depot : Depot) (envelope : Envelope) : Option Envelope :=
  depot.limits.allow depot.clock.now envelope

theorem apply_none (depot : Depot) : depot.apply .none = .ok depot :=
  rfl

theorem apply_limits {signal : Signal} {depot after : Depot}
    (applied : depot.apply signal = .ok after) :
    depot.limits.apply depot.clock.now depot.clock.wall signal = .ok after.limits := by
  cases signal with
  | limits header =>
    cases applied
    rfl
  | retryAfter value =>
    unfold apply readRetryAfter at applied
    unfold Limits.apply
    simp only at applied ⊢
    cases read : depot.limits.afterRetryAfter depot.clock.now depot.clock.wall value with
    | error fault =>
      rw [read] at applied
      cases applied
    | ok limits =>
      rw [read] at applied
      cases applied
      rfl
  | tooManyRequests =>
    cases applied
    rfl
  | none =>
    cases applied
    rfl

theorem apply_updates {signal : Signal} {depot after : Depot}
    (applied : depot.apply signal = .ok after) (some : signal ≠ .none) (name : String) :
    after.ledger.updates.count name =
      depot.ledger.updates.count name + if name = signal.name then 1 else 0 := by
  cases signal with
  | limits header =>
    cases applied
    exact Tally.count_add ..
  | retryAfter value =>
    unfold apply readRetryAfter at applied
    simp only at applied
    cases read : depot.limits.afterRetryAfter depot.clock.now depot.clock.wall value with
    | error fault =>
      rw [read] at applied
      cases applied
    | ok limits =>
      rw [read] at applied
      cases applied
      exact Tally.count_add ..
  | tooManyRequests =>
    cases applied
    exact Tally.count_add ..
  | none => exact absurd rfl some

end Depot

end Courier
