/-
**Failures and their causes.**

The faults that the library finds itself, as the failures that they are raised as: the kind is
chosen here, the message is the fault's own.

* `Failure.ofUrl_invalid`: a text that is no URL is a misuse of the client.
-/
import Courier.Failure
import Courier.Limit.RetryAfter
import Courier.Text.Charset
import Courier.Url.Basic
import Courier.Value.Shown
namespace Courier.Failure

/-- A number that has too many digits to be written. -/
def ofTooManyDigits (fault : TooManyDigits) : Failure :=
  ⟨"ValueError", some fault.message⟩

/-- A text that a character encoding lacks. -/
def ofUnencodable (fault : Unencodable) : Failure :=
  ⟨"UnicodeEncodeError", some fault.message⟩

/-- A body in UTF-16 whose order nothing tells. -/
def ofMissingMark (fault : Charset.MissingMark) : Failure :=
  ⟨"UnicodeError", some fault.message⟩

/-- A date or a span of time that is too large. -/
def tooLarge : Failure :=
  ⟨"OverflowError", none⟩

/-- The kind that a fault of a host name is raised as. -/
def hostNameKind : Idna.Fault → Text
  | .notPermitted .. => "InvalidCodepoint"
  | .misplaced .. => "InvalidCodepointContext"
  | .direction _ => "IDNABidiError"
  | _ => "IDNAError"

/-- A host name that cannot be decoded. -/
def ofHostName (fault : Idna.Fault) : Failure :=
  ⟨hostNameKind fault, some fault.message⟩

/-- A text that is no URL. -/
def ofUrl : Url.Fault → Failure
  | .invalid reason => ⟨"InvalidURL", some reason.message⟩
  | .unencodable reason => ofUnencodable reason

theorem ofUrl_invalid (reason : Url.Invalid) : (ofUrl (.invalid reason)).family = .client := by
  have name : (ofUrl (.invalid reason)).name = Text.ofString "InvalidURL" := rfl
  unfold family
  rw [name]
  decide

end Courier.Failure
