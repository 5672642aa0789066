/-
**Limits after a signal.**

Each signal sets the instants of the categories it names, all counted from one reading of the
clock. Only the header with categories ever touches a category other than the wildcard.

* `Limits.afterHeader_append`: two headers joined by a comma act like one after the other.
* `Limits.reset?_backOff`: a plain back-off changes the wildcard alone.
-/
import Courier.Limit.Basic
import Courier.Limit.Header
import Courier.Limit.RetryAfter
import Courier.Limit.Signal
namespace Courier.Limits

variable {τ : Type} [TimeScale τ]

/-- Limits each of the categories for the same time. -/
def limitAll (now : τ) (seconds : Binary64) (categories : List Category) (limits : Limits τ) :
    Limits τ :=
  categories.foldl (fun limits category => limits.limit now seconds category) limits

/-- Does what an entry says. -/
def enter (now : τ) (limits : Limits τ) : Entry → Limits τ
  | .limit seconds categories => limits.limitAll now seconds categories
  | .malformed _ => limits

/-- The limits after a header with categories. -/
def afterHeader (now : τ) (header : Text) (limits : Limits τ) : Limits τ :=
  (entries header).foldl (enter now) limits

/-- The limits after a plain back-off: everything is limited. -/
def backOff (now : τ) (delay : Binary64) (limits : Limits τ) : Limits τ :=
  limits.limit now delay .any

/-- The limits after the plain back-off header. -/
def afterRetryAfter (now : τ) (wall : Int) (value : Text) (limits : Limits τ) :
    Except RetryAfter.TooLarge (Limits τ) :=
  (RetryAfter.read value).map fun reading =>
    limits.backOff now (reading.delay RetryAfter.fallback wall)

/-- The limits after a refusal without a header. -/
def afterRefusal (now : τ) (limits : Limits τ) : Limits τ :=
  limits.backOff now RetryAfter.fallback

/-- The limits after a signal. -/
def apply (now : τ) (wall : Int) (signal : Signal) (limits : Limits τ) :
    Except RetryAfter.TooLarge (Limits τ) :=
  match signal with
  | .limits header => .ok (limits.afterHeader now header)
  | .retryAfter value => limits.afterRetryAfter now wall value
  | .tooManyRequests => .ok (limits.afterRefusal now)
  | .none => .ok limits

/-- What is reported about the entries of a header. -/
def headerNotes (header : Text) : List Log.Entry :=
  (entries header).filterMap fun
    | .malformed raw =>
      some (.plain .debug .limits ("Skipping malformed rate limit entry " ++ raw.quoted))
    | .limit .. => none

/-- What is reported about the value of the plain back-off header. -/
def retryAfterNotes (value : Text) : List Log.Entry :=
  match RetryAfter.read value with
  | .ok reading => reading.notes RetryAfter.fallback
  | .error _ => []

theorem reset?_backOff (now : τ) (delay : Binary64) (limits : Limits τ) (category : Category) :
    (limits.backOff now delay).reset? category =
      if category = .any then some (now + TimeScale.ofSeconds delay)
      else limits.reset? category :=
  reset?_limit ..

theorem entries_append (first second : Text) :
    entries (first ++ CodePoint.ofChar ',' :: second) = entries first ++ entries second := by
  unfold entries
  rw [Text.splitOn_append, List.map_append]

theorem afterHeader_append (now : τ) (first second : Text) (limits : Limits τ) :
    limits.afterHeader now (first ++ CodePoint.ofChar ',' :: second) =
      (limits.afterHeader now first).afterHeader now second := by
  unfold afterHeader
  rw [entries_append, List.foldl_append]

end Courier.Limits
