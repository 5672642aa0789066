/-
**Decimal numerals and binary64 numbers.**

A decimal is a sign, a whole coefficient and a power of ten. Reading one gives the binary64 number
nearest to it. Writing a number gives the shortest decimal that reads back as it, and of several
shortest ones the nearest.

* `Decimal.toBinary64_of_bounded`: within the range of exponents the reading is one rounding of the
  exact quotient.
-/
import Courier.Number.Binary64
import Courier.Text.Basic
namespace Courier

/-- The number of decimal digits; zero has one. -/
def digitCount (n : Nat) : Nat :=
  (Nat.toDigits 10 n).length

/-- A sign, a coefficient and a power of ten. -/
structure Decimal where
  negative : Bool
  coefficient : Nat
  exponent : Int
  deriving DecidableEq

namespace Decimal

/-- The place of the point: the value is a fraction below one times ten to this power. -/
def point (d : Decimal) : Int :=
  digitCount d.coefficient + d.exponent

/-- The nearest binary64 number. Beyond the exponents that a finite number can have, the power of
ten is not computed. -/
def toBinary64 (d : Decimal) : Binary64 :=
  if d.coefficient = 0 || d.point < -400 then .finite d.negative 0
  else if 400 < d.point then .infinite d.negative
  else if 0 ≤ d.exponent then
    .ofRatio d.negative (d.coefficient * tenTo d.exponent.toNat) 1
  else .ofRatio d.negative d.coefficient (tenTo d.exponent.natAbs)

theorem toBinary64_of_bounded {d : Decimal} (positive : d.coefficient ≠ 0)
    (low : -400 ≤ d.point) (high : d.point ≤ 400) (fraction : d.exponent < 0) :
    d.toBinary64 = .ofRatio d.negative d.coefficient (tenTo d.exponent.natAbs) := by
  unfold toBinary64
  rw [if_neg (by simp [positive]; omega), if_neg (by omega), if_neg (by omega)]

/-- Without the zeros at the end of the coefficient; `fuel` bounds their number. -/
def dropZeros (fuel : Nat) (coefficient : Nat) (exponent : Int) : Nat × Int :=
  match fuel with
  | 0 => (coefficient, exponent)
  | fuel + 1 =>
    if coefficient % 10 = 0 && coefficient != 0 then
      dropZeros fuel (coefficient / 10) (exponent + 1)
    else (coefficient, exponent)

end Decimal

namespace Binary64

/-- Twice the bounds, in units, of the reals that round to the magnitude `u`. -/
def roundingBounds (u : Nat) : Nat × Nat :=
  let above := spacing u
  let below := if u = twoTo (Nat.log2 u) && 1 < above then above / 2 else above
  (2 * u - below, 2 * u + above)

/-- The bounds themselves round to the magnitude: its significand is even. -/
def boundsIncluded (u : Nat) : Bool :=
  u / spacing u % 2 = 0

/-- The point of the grid of steps `10 ^ power` that reads back as the magnitude `u`: the nearer of
its two neighbours there, the even one of two equally near, if either reads back. -/
def gridPoint? (u : Nat) (power : Int) : Option Nat :=
  let scale := if power < 0 then tenTo power.natAbs else 1
  let den := if power < 0 then unitsPerOne else unitsPerOne * tenTo power.natAbs
  let num := u * scale
  let (low, high) := roundingBounds u
  let reads (c : Nat) : Bool :=
    if boundsIncluded u then low * scale ≤ 2 * c * den && 2 * c * den ≤ high * scale
    else low * scale < 2 * c * den && 2 * c * den < high * scale
  let nearest := roundQuotient num den
  let other := if nearest = num / den then nearest + 1 else num / den
  if reads nearest then some nearest
  else if reads other then some other
  else none

/-- The place of the decimal point of a positive magnitude. -/
def decimalPoint (u : Nat) : Int :=
  (digitCount (u * tenTo 400 / unitsPerOne) : Int) - 400

/-- The first grid, from `digits` significant digits on, with a point that reads back. -/
def shortestFrom (u : Nat) (digits : Nat) : Nat → Nat × Int
  | 0 => (0, 0)
  | fuel + 1 =>
    let power := decimalPoint u - digits
    match gridPoint? u power with
    | some c => (c, power)
    | none => shortestFrom u (digits + 1) fuel

/-- The shortest decimal that reads back as the magnitude `u`. -/
def shortest (negative : Bool) (u : Nat) : Decimal :=
  if u = 0 then ⟨negative, 0, 0⟩
  else
    let (c, power) := shortestFrom u 1 17
    let (coefficient, exponent) := Decimal.dropZeros 20 c power
    ⟨negative, coefficient, exponent⟩

end Binary64

namespace Decimal

/-- Zeros. -/
def zeros (n : Nat) : Text :=
  List.replicate n (CodePoint.ofChar '0')

/-- The sign of a decimal. -/
def sign (d : Decimal) : Text :=
  if d.negative then "-" else ""

/-- With a point and at least one digit after it. -/
def positional (d : Decimal) : Text :=
  let digits := Text.ofNat d.coefficient
  if 0 ≤ d.exponent then digits ++ zeros d.exponent.toNat ++ ".0"
  else if 0 < d.point then digits.take d.point.toNat ++ "." ++ digits.drop d.point.toNat
  else "0." ++ zeros d.point.natAbs ++ digits

/-- With one digit before the point, which is left out if nothing follows it, and an exponent of at
least two digits. -/
def scientific (d : Decimal) : Text :=
  let digits := Text.ofNat d.coefficient
  let power := d.point - 1
  let fraction : Text := if digits.length = 1 then "" else "." ++ digits.drop 1
  digits.take 1 ++ fraction ++ "e" ++ (if power < 0 then "-" else "+") ++
    Text.padLeft '0' 2 (Text.ofNat power.natAbs)

/-- Positional where the leading digit stands from ten thousandths up to below `10 ^ 16`, else with
an exponent. -/
def toText (d : Decimal) : Text :=
  if d.coefficient = 0 then d.sign ++ "0.0"
  else if -4 < d.point && d.point ≤ 16 then d.sign ++ d.positional
  else d.sign ++ d.scientific

end Decimal

namespace Binary64

/-- The shortest text that reads back as the number. -/
def toText : Binary64 → Text
  | nan => "nan"
  | infinite negative => if negative then "-inf" else "inf"
  | finite negative units => (shortest negative units).toText

end Binary64

end Courier
