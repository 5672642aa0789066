/-
**Numerals.**

A number is written with a fixed count of digits: after the point, or in all. The exact value is
rounded once, a tie to even. `Numeral` holds the sign apart, so that a field of a given width can
be filled between sign and digits.

* `Numeral.text_eq`: a number is its sign followed by its digits.
-/
import Courier.Number.Decimal
namespace Courier

/-- A written number: its sign, and what follows it. -/
structure Numeral where
  sign : Text
  digits : Text
  deriving DecidableEq

namespace Numeral

/-- The number as it is written. -/
def text (n : Numeral) : Text :=
  n.sign ++ n.digits

/-- The sign of a number. -/
def signOf (negative : Bool) : Text :=
  if negative then "-" else ""

/-- The first `count` significant digits of a positive magnitude, rounded, as a whole number, and
the power of ten of the first of them. -/
def significant (count : Nat) (u : Nat) : Nat × Int :=
  let power := Binary64.decimalPoint u - 1
  let shift : Int := count - 1 - power
  let rounded :=
    if 0 ≤ shift then roundQuotient (u * tenTo shift.toNat) unitsPerOne
    else roundQuotient u (unitsPerOne * tenTo shift.natAbs)
  if rounded < tenTo count then (rounded, power) else (rounded / 10, power + 1)

/-- Digits with a point after the first `whole`; a point without digits after it is written only if
`pointed`. -/
def withPoint (pointed : Bool) (whole : Nat) (digits : Text) : Text :=
  let fraction := digits.drop whole
  if fraction.isEmpty && !pointed then digits else digits.take whole ++ "." ++ fraction

/-- A power of ten after its mark, with a sign and at least two digits. -/
def exponentText (power : Int) : Text :=
  "e" ++ (if power < 0 then "-" else "+") ++ Text.padLeft '0' 2 (Text.ofNat power.natAbs)

/-- What is no finite number. -/
def special? : Binary64 → Option Numeral
  | .nan => some ⟨[], "nan"⟩
  | .infinite negative => some ⟨signOf negative, "inf"⟩
  | .finite .. => none

/-- With `places` digits after the point. -/
def fixed (pointed : Bool) (places : Nat) : Binary64 → Numeral
  | .finite negative units =>
    let scaled := roundQuotient (units * tenTo places) unitsPerOne
    let digits := Text.padLeft '0' (places + 1) (Text.ofNat scaled)
    ⟨signOf negative, withPoint pointed (digits.length - places) digits⟩
  | x => (special? x).getD ⟨[], []⟩

/-- The digits of a magnitude, `count` of them, and the power of ten of the first one. -/
def digitsOf (count u : Nat) : Text × Int :=
  if u = 0 then (List.replicate count (CodePoint.ofChar '0'), 0)
  else
    let (n, power) := significant count u
    (Text.ofNat n, power)

/-- With one digit before the point, `places` after it, and a power of ten. -/
def scientific (pointed : Bool) (places : Nat) : Binary64 → Numeral
  | .finite negative units =>
    let (digits, power) := digitsOf (places + 1) units
    ⟨signOf negative, withPoint pointed 1 digits ++ exponentText power⟩
  | x => (special? x).getD ⟨[], []⟩

/-- Without the zeros at its end. -/
def dropZeros (digits : Text) : Text :=
  digits.trimRight (· = CodePoint.ofChar '0')

/-- With `count` significant digits: positional from ten thousandths up to `10 ^ count`, else with a
power of ten. Zeros at the end of the fraction are written only if `pointed`. -/
def general (pointed : Bool) (count : Nat) : Binary64 → Numeral
  | .finite negative units =>
    let count := max 1 count
    let (digits, power) := digitsOf count units
    let sign := signOf negative
    if power < -4 || (count : Int) ≤ power then
      let shown := if pointed then digits else digits.take 1 ++ dropZeros (digits.drop 1)
      ⟨sign, withPoint pointed 1 shown ++ exponentText power⟩
    else if 0 ≤ power then
      let whole := power.toNat + 1
      let shown := if pointed then digits else digits.take whole ++ dropZeros (digits.drop whole)
      ⟨sign, withPoint pointed whole shown⟩
    else
      let all := List.replicate power.natAbs (CodePoint.ofChar '0') ++ digits
      let shown := if pointed then all else all.take 1 ++ dropZeros (all.drop 1)
      ⟨sign, withPoint pointed 1 shown⟩
  | x => (special? x).getD ⟨[], []⟩

theorem text_eq (n : Numeral) : n.text = n.sign ++ n.digits :=
  rfl

end Numeral

end Courier
