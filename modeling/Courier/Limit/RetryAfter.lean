/-
**The plain back-off header.**

The value says how long to wait: a number of seconds, or a date. What is neither stands for a
minute. A date in the past, like a negative number, is no delay at all.

* `RetryAfter.read_seconds`: a plain duration is read as one.
* `RetryAfter.delay_seconds_nonneg`: the delay of a duration is never below zero.
-/
import Courier.Calendar.HttpDate
import Courier.Limit.Seconds
import Courier.Log.Entry
import Courier.Number.Numeral
namespace Courier.RetryAfter

/-- What a value says. -/
inductive Reading
  | seconds (x : Binary64)
  /-- An instant, in seconds from the first of January 1970. -/
  | date (instant : Int)
  /-- Nothing, in this text. -/
  | nothing (value : Text)
  deriving DecidableEq

/-- A field of the date is too large to be looked at. -/
structure TooLarge where
  deriving DecidableEq

/-- Reads a value, trimmed. -/
def read (value : Text) : Except TooLarge Reading :=
  match Seconds.parse value.strip with
  | .ok x => .ok (.seconds x)
  | .error _ =>
    match HttpDate.epochSeconds value.strip with
    | .ok instant => .ok (.date instant)
    | .error .unreadable => .ok (.nothing value.strip)
    | .error .tooLarge => .error ⟨⟩

/-- The delay, in seconds, for a value that says nothing. -/
def fallback : Binary64 :=
  60

/-- A span of microseconds, in seconds. -/
def secondsOfMicroseconds (count : Int) : Binary64 :=
  .ofRatio (count < 0) count.natAbs 1000000

/-- The delay in seconds; `wall` is the present, in microseconds from the first of January 1970. -/
def Reading.delay (fallback : Binary64) (wall : Int) : Reading → Binary64
  | seconds x => x.larger 0
  | date instant => (secondsOfMicroseconds (instant * 1000000 - wall)).larger 0
  | nothing _ => fallback

/-- What is reported about a value. -/
def Reading.notes (fallback : Binary64) : Reading → List Log.Entry
  | nothing value =>
    [.plain .debug .limits ("Unparseable retry-after " ++ value.quoted ++ ", using " ++
      (Numeral.fixed false 0 fallback).text ++ "s")]
  | _ => []

theorem read_seconds {value : Text} {x : Binary64} (plain : Seconds.parse value.strip = .ok x) :
    read value = .ok (.seconds x) := by
  unfold read
  rw [plain]

theorem delay_seconds_nonneg (fallback : Binary64) (wall : Int) (x : Binary64) :
    ¬ (Reading.seconds x).delay fallback wall < 0 :=
  Binary64.larger_not_lt x 0

end Courier.RetryAfter
