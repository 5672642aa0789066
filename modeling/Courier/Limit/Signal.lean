/-
**What a response says about limits.**

A response may limit single categories, order a plain back-off, or only refuse with status 429. The
strongest of these counts, in this order, and the others are ignored. Names of headers are compared
in small letters.

* `Signal.ofResponse_limits`: where a response limits categories, nothing else counts.
-/
import Courier.Keyed
import Courier.Text.LetterCase
namespace Courier

/-- The headers of a response by name, in order. -/
abbrev ResponseHeaders := Keyed Text Text

namespace ResponseHeaders

/-- The value of a header, whose name is given in small letters; of several that differ in case
only, the last counts. -/
def value? (name : Text) (headers : ResponseHeaders) : Option Text :=
  (headers.findRev? fun header => header.1.toLower == name).map (·.2)

end ResponseHeaders

/-- What a response says about limits. -/
inductive Signal
  /-- The header that limits categories, with this value. -/
  | limits (header : Text)
  /-- The plain back-off header, with this value. -/
  | retryAfter (value : Text)
  /-- The status alone. -/
  | tooManyRequests
  /-- Nothing. -/
  | none
  deriving DecidableEq

namespace Signal

/-- The header that limits categories. -/
def limitsHeader : Text :=
  "x-sentry-rate-limits"

/-- The plain back-off header. -/
def retryAfterHeader : Text :=
  "retry-after"

/-- The status that refuses for too many requests. -/
def refusedStatus : Int :=
  429

/-- The strongest signal of a response. -/
def ofResponse (status : Int) (headers : ResponseHeaders) : Signal :=
  match headers.value? limitsHeader with
  | some header => limits header
  | Option.none =>
    match headers.value? retryAfterHeader with
    | some value => retryAfter value
    | Option.none => if status = refusedStatus then tooManyRequests else none

/-- The name of a signal. -/
def name : Signal → String
  | limits _ => "sentry_header"
  | retryAfter _ => "retry_after"
  | tooManyRequests => "too_many_requests"
  | none => "none"

/-- The value of the header that carries a signal. -/
def value? : Signal → Option Text
  | limits header => some header
  | retryAfter value => some value
  | tooManyRequests => Option.none
  | none => Option.none

theorem ofResponse_limits {status : Int} {headers : ResponseHeaders} {header : Text}
    (present : headers.value? limitsHeader = some header) :
    ofResponse status headers = limits header := by
  unfold ofResponse
  rw [present]

end Signal

end Courier
