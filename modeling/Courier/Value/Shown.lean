/-
**The text of a value.**

`Value.shown` is how a value appears inside a message, with quotation marks around texts;
`Value.toText` leaves a text as it is. A whole number of more than 4300 digits has no text, alone
or inside another value.

* `Value.toText_text`: the text of a text is itself.
* `bind_eq_ok`: what is put together of parts succeeds only if each part does.
-/
import Courier.Text.Quoted
import Courier.Value.Basic
namespace Courier

theorem bind_eq_ok {ε α β : Type} {first : Except ε α} {next : α → Except ε β} {result : β}
    (ok : (first >>= next) = .ok result) :
    ∃ value, first = .ok value ∧ next value = .ok result := by
  cases first with
  | error fault => cases ok
  | ok value => exact ⟨value, rfl, ok⟩

/-- A whole number has too many digits to be written. -/
structure TooManyDigits where
  deriving DecidableEq

/-- The wording for a whole number with too many digits. -/
def TooManyDigits.message (_ : TooManyDigits) : Text :=
  "Exceeds the limit (4300 digits) for integer string conversion; " ++
    "use sys.set_int_max_str_digits() to increase the limit"

/-- The most digits that a whole number may have to be written. -/
def digitLimit : Nat :=
  4300

/-- The decimal text of a whole number, if it has no more digits than allowed. -/
def writeInt (i : Int) : Except TooManyDigits Text :=
  if i.natAbs < tenTo digitLimit then .ok (Text.ofInt i) else .error ⟨⟩

namespace Value

mutual

/-- The text of a value inside a message. -/
def shown : Value → Except TooManyDigits Text
  | null => .ok "None"
  | bool b => .ok (if b then "True" else "False")
  | int i => writeInt i
  | float x => .ok x.toText
  | text t => .ok t.quoted
  | bytes b => .ok (Bytes.quoted b)
  | list elements => do
    let parts ← shownEach elements
    return "[" ++ Text.join ", " parts ++ "]"
  | tuple elements => do
    let parts ← shownEach elements
    return match parts with
      | [one] => "(" ++ one ++ ",)"
      | _ => "(" ++ Text.join ", " parts ++ ")"
  | set elements => do
    let parts ← shownEach elements
    return if parts.isEmpty then "set()" else "\x7b" ++ Text.join ", " parts ++ "\x7d"
  | dict entries => do
    let parts ← shownEntries entries
    return "\x7b" ++ Text.join ", " parts ++ "\x7d"
  | object => .ok "<object object>"
  | cycle => .ok "[[...]]"

/-- The texts of several values. -/
def shownEach : List Value → Except TooManyDigits (List Text)
  | [] => .ok []
  | value :: rest => do
    let first ← shown value
    let others ← shownEach rest
    return first :: others

/-- The texts of the entries of a dictionary. -/
def shownEntries : List (Value × Value) → Except TooManyDigits (List Text)
  | [] => .ok []
  | (key, value) :: rest => do
    let left ← shown key
    let right ← shown value
    let others ← shownEntries rest
    return (left ++ ": " ++ right) :: others

end

/-- The text of a value by itself. -/
def toText : Value → Except TooManyDigits Text
  | text t => .ok t
  | value => value.shown

theorem toText_text (t : Text) : (text t).toText = .ok t :=
  rfl

end Value

end Courier
