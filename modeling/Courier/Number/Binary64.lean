/-
**Binary64 numbers, exactly.**

Clock readings, durations and float settings are binary64 numbers. Every finite one is a whole
multiple of `2 ^ -1074`, so it is kept as a sign and that multiple, its *units*. Sums, differences
and comparisons are then exact arithmetic on whole numbers, and each operation rounds its exact
result once: to 53 significant bits, a tie to even, and to infinity from `2 ^ 1024` on.

* `Binary64.lt_iff_of_finite`: finite numbers are ordered by their signed units.
* `roundUnits_of_representable`: rounding keeps a number that needs no more than 53 bits.
-/
import Courier.Number.Power
import Courier.Number.Rounding
namespace Courier

/-- A binary64 number: not a number, an infinity, or a signed multiple of `2 ^ -1074`. -/
inductive Binary64
  | nan
  | infinite (negative : Bool)
  | finite (negative : Bool) (units : Nat)
  deriving DecidableEq

/-- The number of units in one. -/
def unitsPerOne : Nat :=
  twoTo 1074

/-- From this number of units on, a magnitude is infinite. -/
def unitsOverflow : Nat :=
  twoTo 2098

/-- The distance between neighbouring magnitudes that begin at the same power of two as `u`. -/
def spacing (u : Nat) : Nat :=
  twoTo (Nat.log2 u - 52)

theorem spacing_pos (u : Nat) : 0 < spacing u :=
  twoTo_pos _

/-- The exact number of units `n / d`, rounded to 53 significant bits. -/
def roundUnits (n d : Nat) : Nat :=
  roundQuotient n (d * spacing (n / d)) * spacing (n / d)

theorem roundUnits_of_representable {u d : Nat} (positive : 0 < d) (fits : spacing u ∣ u) :
    roundUnits (u * d) d = u := by
  obtain ⟨q, shape⟩ := fits
  have quotient : u * d / d = u := Nat.mul_div_cancel u positive
  unfold roundUnits
  rw [quotient]
  have exact : u * d = q * (d * spacing u) := by
    calc u * d = spacing u * q * d := by rw [← shape]
      _ = q * (d * spacing u) := by
        rw [Nat.mul_comm (spacing u) q, Nat.mul_assoc, Nat.mul_comm (spacing u) d]
  rw [exact, roundQuotient_mul q (Nat.mul_pos positive (spacing_pos u)), Nat.mul_comm, ← shape]

namespace Binary64

/-- The number of a sign and a rounded magnitude. -/
def ofUnits (negative : Bool) (units : Nat) : Binary64 :=
  if units < unitsOverflow then finite negative units else infinite negative

/-- The number nearest to `n / d`, with a sign. -/
def ofRatio (negative : Bool) (n d : Nat) : Binary64 :=
  ofUnits negative (roundUnits (n * unitsPerOne) d)

/-- The number nearest to a whole number. -/
def ofInt (i : Int) : Binary64 :=
  ofRatio (i < 0) i.natAbs 1

instance (n : Nat) : OfNat Binary64 n := ⟨ofInt n⟩

/-- The sign; a NaN counts as positive. -/
def isNegative : Binary64 → Bool
  | nan => false
  | infinite negative => negative
  | finite negative _ => negative

/-- Neither infinite nor NaN. -/
def isFinite : Binary64 → Bool
  | finite _ _ => true
  | _ => false

/-- The signed number of units of a finite number. -/
def signedUnits (negative : Bool) (units : Nat) : Int :=
  if negative then -units else units

/-- The number nearest to an exact sum of signed units; an exact zero has the sign `zeroSign`. -/
def ofSignedUnits (zeroSign : Bool) (i : Int) : Binary64 :=
  if i = 0 then finite zeroSign 0 else ofUnits (i < 0) (roundUnits i.natAbs 1)

/-- The number with the other sign. -/
def neg : Binary64 → Binary64
  | nan => nan
  | infinite negative => infinite !negative
  | finite negative units => finite (!negative) units

instance : Neg Binary64 := ⟨neg⟩

/-- The exact sum, rounded once; opposite infinities have none. -/
def add : Binary64 → Binary64 → Binary64
  | nan, _ => nan
  | _, nan => nan
  | infinite a, infinite b => if a = b then infinite a else nan
  | infinite a, finite _ _ => infinite a
  | finite _ _, infinite b => infinite b
  | finite a m, finite b n => ofSignedUnits (a && b) (signedUnits a m + signedUnits b n)

instance : Add Binary64 := ⟨add⟩

/-- The exact difference, rounded once. -/
def sub (x y : Binary64) : Binary64 :=
  x + -y

instance : Sub Binary64 := ⟨sub⟩

/-- Strictly below; a NaN is neither below nor above anything, and the zeros are equal. -/
def blt : Binary64 → Binary64 → Bool
  | nan, _ => false
  | _, nan => false
  | infinite a, infinite b => a && !b
  | infinite a, finite _ _ => a
  | finite _ _, infinite b => !b
  | finite a m, finite b n => signedUnits a m < signedUnits b n

/-- Equal as numbers; a NaN equals nothing, and the zeros are equal. -/
def beq : Binary64 → Binary64 → Bool
  | nan, _ => false
  | _, nan => false
  | infinite a, infinite b => a == b
  | infinite _, finite _ _ => false
  | finite _ _, infinite _ => false
  | finite a m, finite b n => signedUnits a m == signedUnits b n

/-- Below or equal as numbers. -/
def ble (x y : Binary64) : Bool :=
  blt x y || beq x y

instance : LT Binary64 := ⟨fun x y => blt x y = true⟩

instance (x y : Binary64) : Decidable (x < y) :=
  inferInstanceAs (Decidable (blt x y = true))

instance : LE Binary64 := ⟨fun x y => ble x y = true⟩

instance (x y : Binary64) : Decidable (x ≤ y) :=
  inferInstanceAs (Decidable (ble x y = true))

/-- The larger of two numbers; the first, unless the second is strictly above it. -/
def larger (x y : Binary64) : Binary64 :=
  if x < y then y else x

theorem lt_iff_of_finite {a b : Bool} {m n : Nat} :
    finite a m < finite b n ↔ signedUnits a m < signedUnits b n :=
  decide_eq_true_iff

theorem lt_irrefl (x : Binary64) : ¬ x < x := by
  cases x with
  | nan => exact Bool.false_ne_true
  | infinite negative => cases negative <;> exact Bool.false_ne_true
  | finite negative units => exact fun below => Int.lt_irrefl _ (lt_iff_of_finite.mp below)

theorem larger_not_lt (x y : Binary64) : ¬ larger x y < y := by
  unfold larger
  split
  · exact lt_irrefl y
  · assumption

/-- The whole number that a number is, if it is one. -/
def toInt? : Binary64 → Option Int
  | finite negative units =>
    if units % unitsPerOne = 0 then some (signedUnits negative (units / unitsPerOne)) else none
  | _ => none

/-- The number rounded to `places` decimal places: the nearest decimal, then the nearest number
to that. -/
def roundTo (places : Nat) : Binary64 → Binary64
  | finite negative units =>
    ofRatio negative (roundQuotient (units * tenTo places) unitsPerOne) (tenTo places)
  | x => x

end Binary64

end Courier
