/-
**Plain durations.**

A duration on the wire is a plain decimal number of seconds: an optional sign, then digits with an
optional point and further digits, or a point and digits. Digits of any script count. There are no
exponents, no separators between digits and no words; a number that rounds to infinity is out of
range.

* `Seconds.parse_isFinite`: what is read is a finite number.
-/
import Courier.Number.Decimal
import Courier.Number.Integer
import Courier.Text.Quoted
namespace Courier

namespace Seconds

/-- Why a text is no duration. -/
inductive Fault
  | notPlain (t : Text)
  | outOfRange (t : Text)
  deriving DecidableEq

/-- The wording of a fault. -/
def Fault.message : Fault → Text
  | notPlain t => "not a number of seconds: " ++ t.quoted
  | outOfRange t => "out of range: " ++ t.quoted

/-- The values of the digits, if the text has nothing else. -/
def digits? (t : Text) : Option (List Nat) :=
  t.mapM CodePoint.decimalDigit?

/-- The digits before and after the point. -/
def unsigned? (t : Text) : Option (List Nat × List Nat) :=
  match t.cut '.' with
  | (whole, none) => do
    let whole ← digits? whole
    if whole.isEmpty then none else return (whole, [])
  | (whole, some fraction) => do
    let whole ← digits? whole
    let fraction ← digits? fraction
    if whole.isEmpty && fraction.isEmpty then none else return (whole, fraction)

/-- The decimal that a text without blanks denotes. -/
def decimal? (t : Text) : Option Decimal :=
  let (negative, unsigned) := Integer.sign t
  (unsigned? unsigned).map fun (whole, fraction) =>
    ⟨negative, Text.numeral 10 (whole ++ fraction), -fraction.length⟩

/-- The duration that a text, trimmed, denotes. -/
def parse (t : Text) : Except Fault Binary64 :=
  match decimal? t.strip with
  | none => .error (.notPlain t.strip)
  | some decimal =>
    let seconds := decimal.toBinary64
    if seconds.isFinite then .ok seconds else .error (.outOfRange t.strip)

theorem parse_isFinite {t : Text} {seconds : Binary64} (read : parse t = .ok seconds) :
    seconds.isFinite := by
  unfold parse at read
  split at read
  · cases read
  · simp only at read
    split at read
    · rename_i finite
      cases read
      exact finite
    · cases read

end Seconds

end Courier
