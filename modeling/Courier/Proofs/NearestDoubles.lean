/-
**The nearest double.**

A magnitude that binary64 can hold has at most 53 significant bits. Rounding finds the nearest of
these, and of two that are equally near the one whose last bit is zero. As long as exponents are not
bounded there always is one; from half a step beyond the largest double on, it is too large, and the
number is infinite.

* `IsRounding.unique`: at most one magnitude is the nearest.
* `roundUnits_isRounding`: rounding finds it.
* `IsRounding.lt_unitsOverflow_iff`: when it is not too large.
* `Binary64.isNearest_ofRatio_iff`: the double nearest to a quotient.
-/
import Courier.Proofs.ClockOrder
import Mathlib.Algebra.Order.Ring.Abs
import Mathlib.Algebra.Order.Field.Basic
import Mathlib.Algebra.Order.Field.Rat
import Mathlib.Data.Nat.Cast.Order.Field
import Mathlib.Tactic.FieldSimp
import Mathlib.Tactic.Linarith
import Mathlib.Tactic.Ring
namespace Courier

/-! ### Magnitudes -/

/-- A magnitude with at most 53 significant bits. -/
def Fits (u : Nat) : Prop :=
  ∃ m e, m < twoTo 53 ∧ u = m * twoTo e

/-- A magnitude with at most 53 significant bits, the last of which is zero. -/
def FitsEvenly (u : Nat) : Prop :=
  ∃ m e, m < twoTo 53 ∧ m % 2 = 0 ∧ u = m * twoTo e

/-- The magnitude with 53 significant bits that is nearest to `q`; of two that are equally near, the
one whose last bit is zero. -/
structure IsRounding (q : ℚ) (u : Nat) : Prop where
  fits : Fits u
  near : ∀ w, Fits w → |(u : ℚ) - q| ≤ |(w : ℚ) - q|
  even : ∀ w, Fits w → w ≠ u → |(w : ℚ) - q| = |(u : ℚ) - q| → FitsEvenly u

theorem twoTo_add (a b : Nat) : twoTo (a + b) = twoTo a * twoTo b :=
  Nat.pow_add 2 a b

theorem fits_zero : Fits 0 :=
  ⟨0, 0, by decide +kernel, rfl⟩

theorem FitsEvenly.fits {u : Nat} (even : FitsEvenly u) : Fits u := by
  obtain ⟨m, e, small, -, shape⟩ := even
  exact ⟨m, e, small, shape⟩

/-- The step after the last significand is the first one of twice the size. -/
theorem fitsEvenly_last (e : Nat) : FitsEvenly (twoTo 53 * twoTo e) := by
  refine ⟨twoTo 52, e + 1, by decide +kernel, by decide +kernel, ?_⟩
  rw [← twoTo_add, ← twoTo_add]
  congr 1
  omega

theorem fits_of_le {c : Nat} (small : c ≤ twoTo 53) (e : Nat) : Fits (c * twoTo e) := by
  rcases Nat.lt_or_eq_of_le small with less | rfl
  · exact ⟨c, e, less, rfl⟩
  · exact (fitsEvenly_last e).fits

theorem fitsEvenly_of_le {c : Nat} (small : c ≤ twoTo 53) (even : c % 2 = 0) (e : Nat) :
    FitsEvenly (c * twoTo e) := by
  rcases Nat.lt_or_eq_of_le small with less | rfl
  · exact ⟨c, e, less, even, rfl⟩
  · exact fitsEvenly_last e

/-! ### There is one nearest magnitude -/

/-- Between two magnitudes that both end in a zero there is another one. -/
theorem exists_between {a b : Nat} (low : FitsEvenly a) (high : FitsEvenly b) (less : a < b) :
    ∃ w, Fits w ∧ a < w ∧ w < b := by
  obtain ⟨m, e, small, even, rfl⟩ := low
  obtain ⟨m', e', small', even', rfl⟩ := high
  have step := twoTo_pos e
  have step' := twoTo_pos e'
  have top : twoTo 53 % 2 = 0 := by decide +kernel
  rcases Nat.le_total e e' with le | le
  · -- The larger one is a multiple of twice the step of the smaller one.
    refine ⟨(m + 1) * twoTo e, ⟨m + 1, e, by omega, rfl⟩, by rw [Nat.add_mul]; omega, ?_⟩
    obtain ⟨c, rfl⟩ := Nat.exists_eq_add_of_le le
    rw [twoTo_add, Nat.mul_left_comm, Nat.mul_comm (twoTo e)] at less ⊢
    have order := Nat.lt_of_mul_lt_mul_right less
    refine Nat.mul_lt_mul_of_pos_right ?_ step
    have doubled : m' * twoTo c % 2 = 0 := by rw [Nat.mul_mod, even', Nat.zero_mul, Nat.zero_mod]
    omega
  · obtain ⟨c, rfl⟩ := Nat.exists_eq_add_of_le le
    have positive : m' ≠ 0 := by
      rintro rfl
      rw [Nat.zero_mul] at less
      omega
    obtain ⟨p, rfl⟩ : ∃ p, m' = p + 1 := ⟨m' - 1, by omega⟩
    refine ⟨p * twoTo e', ⟨p, e', by omega, rfl⟩, ?_, by rw [Nat.add_mul]; omega⟩
    rw [twoTo_add, Nat.mul_left_comm, Nat.mul_comm (twoTo e')] at less ⊢
    have order := Nat.lt_of_mul_lt_mul_right less
    refine Nat.mul_lt_mul_of_pos_right ?_ step'
    have doubled : m * twoTo c % 2 = 0 := by rw [Nat.mul_mod, even, Nat.zero_mul, Nat.zero_mod]
    omega

theorem IsRounding.not_lt {q : ℚ} {a b : Nat} (first : IsRounding q a) (second : IsRounding q b) :
    ¬ a < b := by
  intro less
  have tie : |(a : ℚ) - q| = |(b : ℚ) - q| :=
    le_antisymm (first.near b second.fits) (second.near a first.fits)
  have low := first.even b second.fits (Nat.ne_of_gt less) tie.symm
  have high := second.even a first.fits (Nat.ne_of_lt less) tie
  obtain ⟨w, fits, above, below⟩ := exists_between low high less
  have nearer := first.near w fits
  have above' : (a : ℚ) < w := by exact_mod_cast above
  have below' : (w : ℚ) < b := by exact_mod_cast below
  rcases abs_cases ((a : ℚ) - q) with left | left <;>
    rcases abs_cases ((b : ℚ) - q) with right | right <;>
      rcases abs_cases ((w : ℚ) - q) with middle | middle <;> linarith

/-- At most one magnitude is the nearest. -/
theorem IsRounding.unique {q : ℚ} {a b : Nat} (first : IsRounding q a) (second : IsRounding q b) :
    a = b :=
  Nat.le_antisymm (Nat.not_lt.mp (second.not_lt first)) (Nat.not_lt.mp (first.not_lt second))

/-! ### Rounding finds it -/

/-- Where the even neighbour was not taken, the quotient is nearer than half a step. -/
theorem roundQuotient_near_of_odd {n d : Nat} (positive : 0 < d)
    (odd : roundQuotient n d % 2 = 1) :
    2 * n < 2 * (roundQuotient n d * d) + d ∧ 2 * (roundQuotient n d * d) < 2 * n + d := by
  have below := roundQuotient_near_below n positive
  have above := roundQuotient_near_above n positive
  have parts := Nat.div_add_mod n d
  have small := Nat.mod_lt n positive
  have untied : 2 * (n % d) ≠ d := by
    intro tie
    have even := roundQuotient_even_of_tie tie
    omega
  have shift : (n / d + 1) * d = d * (n / d) + d := by rw [Nat.add_mul, Nat.mul_comm, Nat.one_mul]
  have same : n / d * d = d * (n / d) := Nat.mul_comm ..
  have either : roundQuotient n d = n / d ∨ roundQuotient n d = n / d + 1 := by
    have low := div_le_roundQuotient n d
    have high := roundQuotient_le_succ n d
    omega
  rcases either with floor | ceil
  · rw [floor, same] at below above ⊢
    omega
  · rw [ceil, shift] at below above ⊢
    omega

section Rounding

variable {n d : Nat}

/-- The quotient is less than `2 ^ 53` steps of its binade. -/
theorem div_lt_spacing (u : Nat) : u < twoTo 53 * spacing u := by
  have below : u < twoTo (Nat.log2 u + 1) := Nat.lt_log2_self
  unfold spacing
  rw [← twoTo_add]
  exact Nat.lt_of_lt_of_le below (twoTo_mono (by omega))

theorem roundQuotient_spacing_le (n d : Nat) :
    roundQuotient n (d * spacing (n / d)) ≤ twoTo 53 := by
  have quotient : n / (d * spacing (n / d)) < twoTo 53 := by
    rw [← Nat.div_div_eq_div_mul]
    exact (Nat.div_lt_iff_lt_mul (spacing_pos _)).mpr (div_lt_spacing _)
  exact Nat.le_trans (roundQuotient_le_succ _ _) quotient

/-- A magnitude that is no multiple of the step at `u` lies below the binade of `u`. -/
theorem Fits.dvd_or_lt {w : Nat} (fits : Fits w) (u : Nat) :
    spacing u ∣ w ∨ (w < twoTo (Nat.log2 u) ∧ twoTo (Nat.log2 u) ≤ u ∧
      spacing u ∣ twoTo (Nat.log2 u)) := by
  obtain ⟨m, e, small, rfl⟩ := fits
  unfold spacing
  by_cases coarse : Nat.log2 u - 52 ≤ e
  · left
    exact Dvd.dvd.mul_left (Nat.pow_dvd_pow 2 coarse) m
  · right
    have below : m * twoTo e < twoTo (Nat.log2 u) := by
      calc m * twoTo e < twoTo 53 * twoTo e := Nat.mul_lt_mul_of_pos_right small (twoTo_pos e)
        _ = twoTo (53 + e) := (twoTo_add 53 e).symm
        _ ≤ twoTo (Nat.log2 u) := twoTo_mono (by omega)
    have some : u ≠ 0 := by
      rintro rfl
      rw [Nat.log2_zero] at coarse
      omega
    exact ⟨below, Nat.log2_self_le some, Nat.pow_dvd_pow 2 (Nat.sub_le _ _)⟩

/-- The rounded magnitude is within half a step, and nearer if its last digit is odd. -/
theorem roundUnits_within (n : Nat) (positive : 0 < d) :
    |(roundUnits n d : ℚ) - n / d| ≤ spacing (n / d) / 2 ∧
      (roundQuotient n (d * spacing (n / d)) % 2 = 1 →
        |(roundUnits n d : ℚ) - n / d| < spacing (n / d) / 2) := by
  have step := spacing_pos (n / d)
  have size := Nat.mul_pos positive step
  have below := roundQuotient_near_below n size
  have above := roundQuotient_near_above n size
  have odd := @roundQuotient_near_of_odd n _ size
  unfold roundUnits
  generalize roundQuotient n (d * spacing (n / d)) = c at *
  generalize spacing (n / d) = s at *
  have d_pos : (0 : ℚ) < d := by exact_mod_cast positive
  -- The difference, in multiples of `d`.
  have scaled : (((c * s : Nat) : ℚ) - n / d) * d = c * (d * s) - n := by
    push_cast
    field_simp
  refine ⟨?_, fun last => ?_⟩
  · have below' : 2 * (n : ℚ) ≤ 2 * (c * (d * s)) + d * s := by exact_mod_cast below
    have above' : 2 * (c * (d * s)) ≤ 2 * (n : ℚ) + d * s := by exact_mod_cast above
    refine le_of_mul_le_mul_right ?_ d_pos
    rw [← abs_of_pos d_pos, ← abs_mul, abs_of_pos d_pos, scaled, abs_le]
    constructor <;> linarith
  · obtain ⟨below, above⟩ := odd last
    have below' : 2 * (n : ℚ) < 2 * (c * (d * s)) + d * s := by exact_mod_cast below
    have above' : 2 * (c * (d * s)) < 2 * (n : ℚ) + d * s := by exact_mod_cast above
    refine lt_of_mul_lt_mul_right ?_ d_pos.le
    rw [← abs_of_pos d_pos, ← abs_mul, abs_of_pos d_pos, scaled, abs_lt]
    constructor <;> linarith

/-- Different multiples of a step are a step apart. -/
theorem spacing_le_abs_sub {s a b : Nat} (first : s ∣ a) (second : s ∣ b) (other : a ≠ b) :
    (s : ℚ) ≤ |(a : ℚ) - b| := by
  have apart : ∀ {x y : Nat}, s ∣ x → s ∣ y → x < y → (s : ℚ) ≤ y - x := by
    intro x y low high less
    have gap : s ≤ y - x := Nat.le_of_dvd (by omega) (Nat.dvd_sub high low)
    have sum : x + s ≤ y := by omega
    have sum' : (x : ℚ) + s ≤ y := by exact_mod_cast sum
    linarith
  rcases Nat.lt_or_gt_of_ne other with less | more
  · rw [abs_sub_comm]
    exact (apart first second less).trans (le_abs_self _)
  · exact (apart second first more).trans (le_abs_self _)

/-- **Rounding finds the nearest magnitude.** -/
theorem roundUnits_isRounding (n : Nat) (positive : 0 < d) :
    IsRounding (n / d) (roundUnits n d) := by
  have small := roundQuotient_spacing_le n d
  have multiple : spacing (n / d) ∣ roundUnits n d := Dvd.intro_left _ rfl
  obtain ⟨within, inner⟩ := roundUnits_within n positive
  have step : (0 : ℚ) < spacing (n / d) := by exact_mod_cast spacing_pos (n / d)
  have floor : ((n / d : Nat) : ℚ) ≤ n / d := Nat.cast_div_le
  -- Any other multiple of the step is at least a step away from the rounded one.
  have away : ∀ w, spacing (n / d) ∣ w → w ≠ roundUnits n d →
      (spacing (n / d) : ℚ) / 2 ≤ |(w : ℚ) - n / d| := by
    intro w divides other
    have gap := spacing_le_abs_sub divides multiple other
    have sum := abs_sub_le (w : ℚ) (n / d) (roundUnits n d)
    rw [abs_sub_comm ((n : ℚ) / d)] at sum
    linarith
  have near : ∀ w, spacing (n / d) ∣ w →
      |(roundUnits n d : ℚ) - n / d| ≤ |(w : ℚ) - n / d| := by
    intro w divides
    by_cases same : w = roundUnits n d
    · rw [same]
    · exact within.trans (away w divides same)
  -- What lies below the binade is further away than where the binade begins.
  have far : ∀ w, w < twoTo (Nat.log2 (n / d)) → twoTo (Nat.log2 (n / d)) ≤ n / d →
      spacing (n / d) ∣ twoTo (Nat.log2 (n / d)) →
        |(roundUnits n d : ℚ) - n / d| < |(w : ℚ) - n / d| := by
    intro w below begins divides
    refine (near _ divides).trans_lt ?_
    have below' : (w : ℚ) < twoTo (Nat.log2 (n / d)) := by exact_mod_cast below
    have begins' : (twoTo (Nat.log2 (n / d)) : ℚ) ≤ ((n / d : Nat) : ℚ) := by exact_mod_cast begins
    rw [abs_of_nonpos (by linarith), abs_of_nonpos (by linarith)]
    linarith
  refine ⟨fits_of_le small _, fun w fits => ?_, fun w fits other tie => ?_⟩
  · rcases fits.dvd_or_lt (n / d) with divides | ⟨below, begins, divides⟩
    · exact near w divides
    · exact (far w below begins divides).le
  · rcases fits.dvd_or_lt (n / d) with divides | ⟨below, begins, divides⟩
    · refine fitsEvenly_of_le small ?_ _
      by_contra odd
      have strict := inner (by omega)
      have gap := away w divides other
      linarith
    · exact absurd tie (far w below begins divides).ne'

end Rounding

/-! ### Magnitudes that are too large -/

/-- The largest magnitude that is not too large. -/
def largestUnits : Nat :=
  (twoTo 53 - 1) * twoTo 2045

/-- Half a step beyond the largest magnitude. -/
def unitsBound : Nat :=
  (twoTo 54 - 1) * twoTo 2044

theorem Fits.le_largestUnits {w : Nat} (fits : Fits w) (below : w < unitsOverflow) :
    w ≤ largestUnits := by
  obtain ⟨m, e, small, rfl⟩ := fits
  have whole : unitsOverflow = twoTo 53 * twoTo 2045 := (twoTo_add 53 2045)
  rw [whole] at below
  unfold largestUnits
  by_cases coarse : 2045 ≤ e
  · obtain ⟨c, rfl⟩ := Nat.exists_eq_add_of_le coarse
    rw [twoTo_add, Nat.mul_left_comm, Nat.mul_comm (twoTo 2045)] at below ⊢
    have order := Nat.lt_of_mul_lt_mul_right below
    exact Nat.mul_le_mul_right _ (by omega)
  · exact Nat.mul_le_mul (by omega) (twoTo_mono (by omega))

/-- The last bit of the largest magnitude is not zero. -/
theorem not_fitsEvenly_largestUnits : ¬ FitsEvenly largestUnits := by
  rintro ⟨m, e, small, even, shape⟩
  unfold largestUnits at shape
  have top : twoTo 53 % 2 = 0 := by decide +kernel
  by_cases coarse : 2045 ≤ e
  · obtain ⟨c, rfl⟩ := Nat.exists_eq_add_of_le coarse
    rw [twoTo_add, Nat.mul_left_comm, Nat.mul_comm (twoTo 2045)] at shape
    have same := Nat.eq_of_mul_eq_mul_right (twoTo_pos 2045) shape
    have doubled : m * twoTo c % 2 = 0 := by rw [Nat.mul_mod, even, Nat.zero_mul, Nat.zero_mod]
    omega
  · obtain ⟨c, split⟩ : ∃ c, 2045 = e + (c + 1) := ⟨2044 - e, by omega⟩
    rw [split, twoTo_add, Nat.mul_left_comm, Nat.mul_comm (twoTo e)] at shape
    have same := Nat.eq_of_mul_eq_mul_right (twoTo_pos e) shape
    have twice : (twoTo 53 - 1) * twoTo 1 ≤ m := by
      rw [← same]
      exact Nat.mul_le_mul_left _ (twoTo_mono (Nat.le_add_left 1 c))
    rw [show twoTo 1 = 2 from rfl] at twice
    have large : 2 ≤ twoTo 53 := by decide +kernel
    omega

theorem fits_largestUnits : Fits largestUnits :=
  ⟨_, 2045, by decide +kernel, rfl⟩

theorem fits_unitsOverflow : Fits unitsOverflow := by
  refine ⟨1, 2098, by decide +kernel, ?_⟩
  rw [Nat.one_mul]
  rfl

/-- The bound lies in the middle between the largest magnitude and the first that is too large. -/
theorem two_mul_unitsBound : 2 * unitsBound = largestUnits + unitsOverflow := by
  decide +kernel

theorem largestUnits_lt_unitsBound : largestUnits < unitsBound := by
  decide +kernel

/-- From the bound on everything is too large. -/
theorem IsRounding.lt_unitsOverflow_iff {q : ℚ} {u : Nat} (rounding : IsRounding q u) :
    u < unitsOverflow ↔ q < unitsBound := by
  have middle : 2 * (unitsBound : ℚ) = largestUnits + unitsOverflow := by
    exact_mod_cast two_mul_unitsBound
  have room : (largestUnits : ℚ) < unitsBound := by exact_mod_cast largestUnits_lt_unitsBound
  have largest := rounding.near _ fits_largestUnits
  have first := rounding.near _ fits_unitsOverflow
  constructor
  · intro below
    by_contra above
    have le : (u : ℚ) ≤ largestUnits := by exact_mod_cast rounding.fits.le_largestUnits below
    -- The largest magnitude loses a tie with the one beyond it.
    have tie : |(unitsOverflow : ℚ) - q| = |(u : ℚ) - q| := by
      rcases abs_cases ((u : ℚ) - q) with left | left <;>
        rcases abs_cases ((unitsOverflow : ℚ) - q) with right | right <;> linarith
    have same : (u : ℚ) = largestUnits := by
      rcases abs_cases ((u : ℚ) - q) with left | left <;>
        rcases abs_cases ((unitsOverflow : ℚ) - q) with right | right <;> linarith
    have even := rounding.even _ fits_unitsOverflow (Nat.ne_of_gt below) tie
    have same' : u = largestUnits := by exact_mod_cast same
    rw [same'] at even
    exact not_fitsEvenly_largestUnits even
  · intro below
    by_contra above
    have ge : (unitsOverflow : ℚ) ≤ u := by exact_mod_cast Nat.not_lt.mp above
    rcases abs_cases ((u : ℚ) - q) with left | left <;>
      rcases abs_cases ((largestUnits : ℚ) - q) with right | right <;> linarith

/-- What is below half a unit is rounded to nothing. -/
theorem IsRounding.eq_zero {q : ℚ} {u : Nat} (rounding : IsRounding q u) (positive : 0 ≤ q)
    (small : q < 1 / 2) : u = 0 := by
  have nearer := rounding.near 0 fits_zero
  by_contra some
  have one : (1 : ℚ) ≤ u := by exact_mod_cast Nat.one_le_iff_ne_zero.mpr some
  rw [Nat.cast_zero, abs_of_nonneg (by linarith), abs_of_nonpos (by linarith)] at nearer
  linarith

/-! ### Doubles -/

namespace Binary64

/-- A finite number that binary64 has. -/
inductive IsDouble : Binary64 → Prop
  | finite {negative : Bool} {units : Nat} (fits : Fits units) (small : units < unitsOverflow) :
    IsDouble (finite negative units)

/-- A finite number whose last significant bit is zero. -/
inductive IsEven : Binary64 → Prop
  | finite {negative : Bool} {units : Nat} (fits : FitsEvenly units) :
    IsEven (finite negative units)

theorem isDouble_finite_iff {negative : Bool} {units : Nat} :
    (finite negative units).IsDouble ↔ Fits units ∧ units < unitsOverflow := by
  constructor
  · rintro ⟨fits, small⟩
    exact ⟨fits, small⟩
  · rintro ⟨fits, small⟩
    exact ⟨fits, small⟩

theorem isEven_finite_iff {negative : Bool} {units : Nat} :
    (finite negative units).IsEven ↔ FitsEvenly units := by
  constructor
  · rintro ⟨fits⟩
    exact fits
  · exact fun fits => ⟨fits⟩

/-- A value with a sign. -/
def signed (negative : Bool) (q : ℚ) : ℚ :=
  if negative then -q else q

/-- The value of a finite number. -/
def value : Binary64 → ℚ
  | finite negative units => signed negative (units / unitsPerOne)
  | _ => 0

/-- The finite double that is nearest to `v`; of two that are equally near, the one whose last bit
is zero. -/
structure IsNearest (x : Binary64) (v : ℚ) : Prop where
  double : x.IsDouble
  near : ∀ y : Binary64, y.IsDouble → |x.value - v| ≤ |y.value - v|
  even : ∀ y : Binary64, y.IsDouble → y.value ≠ x.value → |y.value - v| = |x.value - v| → x.IsEven

/-- From this magnitude on a value is rounded to infinity: half a step beyond the largest double. -/
def overflowBound : ℚ :=
  2 ^ 1023 * (2 - 1 / 2 ^ 53)

theorem cast_twoTo (n : Nat) : (twoTo n : ℚ) = 2 ^ n :=
  Nat.cast_pow 2 n

theorem unitsPerOne_pos : (0 : ℚ) < unitsPerOne := by
  exact_mod_cast twoTo_pos 1074

theorem overflowBound_mul : overflowBound * unitsPerOne = unitsBound := by
  have split : (2 : ℚ) ^ 1023 * 2 ^ 1074 = 2 ^ 53 * 2 ^ 2044 := by
    rw [← pow_add, ← pow_add]
  have units : (unitsPerOne : ℚ) = 2 ^ 1074 := cast_twoTo 1074
  have bound : (unitsBound : ℚ) = (2 ^ 54 - 1) * 2 ^ 2044 := by
    have one : 1 ≤ twoTo 54 := twoTo_pos 54
    unfold unitsBound
    rw [Nat.cast_mul, Nat.cast_sub one, cast_twoTo, cast_twoTo, Nat.cast_one]
  unfold overflowBound
  rw [units, bound, mul_right_comm, split]
  generalize (2 : ℚ) ^ 2044 = step
  ring

theorem abs_signed_sub (negative : Bool) (a b : ℚ) :
    |signed negative a - signed negative b| = |a - b| := by
  cases negative with
  | false => rfl
  | true =>
    show |-a - -b| = |a - b|
    rw [neg_sub_neg, abs_sub_comm]

/-- Values of different signs are as far apart as they are from zero together. -/
theorem abs_signed_sub_of_ne {first second : Bool} (other : first ≠ second) {a b : ℚ}
    (left : 0 ≤ a) (right : 0 ≤ b) : |signed first a - signed second b| = a + b := by
  have sum := abs_of_nonneg (add_nonneg left right)
  cases first <;> cases second
  · exact absurd rfl other
  · show |a - -b| = a + b
    rw [sub_neg_eq_add, sum]
  · show |-a - b| = a + b
    rw [← neg_add', abs_neg, sum]
  · exact absurd rfl other

theorem signed_inj {negative : Bool} {a b : ℚ} : signed negative a = signed negative b ↔ a = b := by
  cases negative
  · exact Iff.rfl
  · exact neg_inj

section

variable {negative : Bool} {q : ℚ} {u : Nat}

/-- How far a number is from a value of its sign, counted in units. -/
theorem abs_value_sub (negative : Bool) (u : Nat) (q : ℚ) :
    |(finite negative u).value - signed negative q| =
      |(u : ℚ) - q * unitsPerOne| / unitsPerOne := by
  have pos := unitsPerOne_pos
  show |signed negative (u / unitsPerOne) - signed negative q| = _
  rw [abs_signed_sub, eq_div_iff pos.ne']
  nth_rewrite 2 [← abs_of_pos pos]
  rw [← abs_mul, sub_mul, div_mul_cancel₀ _ pos.ne']

theorem value_finite_inj {w : Nat} :
    (finite negative w).value = (finite negative u).value ↔ w = u := by
  show signed negative _ = signed negative _ ↔ _
  rw [signed_inj, div_left_inj' unitsPerOne_pos.ne', Nat.cast_inj]

/-- A number of the other sign is no nearer than zero. -/
theorem abs_zero_sub_le {first : Bool} (other : first ≠ negative) (nonneg : 0 ≤ q) (w : Nat) :
    |(finite negative 0).value - signed negative q| + w / unitsPerOne =
      |(finite first w).value - signed negative q| := by
  have pos := unitsPerOne_pos
  have zero : |(finite negative 0).value - signed negative q| = q := by
    show |signed negative ((0 : Nat) / unitsPerOne) - signed negative q| = q
    rw [abs_signed_sub, Nat.cast_zero, zero_div, zero_sub, abs_neg, abs_of_nonneg nonneg]
  rw [zero]
  show _ = |signed first (w / unitsPerOne) - signed negative q|
  rw [abs_signed_sub_of_ne other (div_nonneg (Nat.cast_nonneg w) pos.le) nonneg, add_comm]

theorem isNearest_of_isRounding (nonneg : 0 ≤ q) (small : q < overflowBound)
    (rounding : IsRounding (q * unitsPerOne) u) :
    (finite negative u).IsNearest (signed negative q) := by
  have pos := unitsPerOne_pos
  have below : u < unitsOverflow := by
    rw [rounding.lt_unitsOverflow_iff, ← overflowBound_mul]
    exact mul_lt_mul_of_pos_right small pos
  have near : ∀ w, Fits w → |(finite negative u).value - signed negative q| ≤
      |(finite negative w).value - signed negative q| := by
    intro w fits
    rw [abs_value_sub, abs_value_sub, div_le_div_iff_of_pos_right pos]
    exact rounding.near w fits
  have even : ∀ w, Fits w → w ≠ u → |(finite negative w).value - signed negative q| =
      |(finite negative u).value - signed negative q| → FitsEvenly u := by
    intro w fits other tie
    rw [abs_value_sub, abs_value_sub, div_left_inj' pos.ne'] at tie
    exact rounding.even w fits other tie
  refine ⟨⟨rounding.fits, below⟩, fun y double => ?_, fun y double other tie => ?_⟩
  · cases y with
    | nan => cases double
    | infinite sign => cases double
    | finite sign w =>
      by_cases same : sign = negative
      · rw [same]
        exact near w (isDouble_finite_iff.mp double).1
      · rw [← abs_zero_sub_le same nonneg]
        have more : (0 : ℚ) ≤ w / unitsPerOne := div_nonneg (Nat.cast_nonneg w) pos.le
        exact (near 0 fits_zero).trans (le_add_of_nonneg_right more)
  · rw [isEven_finite_iff]
    cases y with
    | nan => cases double
    | infinite sign => cases double
    | finite sign w =>
      by_cases same : sign = negative
      · subst same
        have fits := (isDouble_finite_iff.mp double).1
        exact even w fits (fun equal => other (value_finite_inj.mpr equal)) tie
      · -- A number of the other sign is as near only if it is a zero.
        rw [← abs_zero_sub_le same nonneg] at tie
        have nearest := near 0 fits_zero
        have more : (0 : ℚ) ≤ w / unitsPerOne := div_nonneg (Nat.cast_nonneg w) pos.le
        have none : (w : ℚ) / unitsPerOne = 0 := by linarith
        rw [none, add_zero] at tie
        refine even 0 fits_zero ?_ tie
        rintro rfl
        have zero : (w : ℚ) = 0 := (div_eq_zero_iff.mp none).resolve_right pos.ne'
        rw [Nat.cast_eq_zero.mp zero] at other
        refine other ?_
        show signed sign ((0 : Nat) / unitsPerOne) = signed negative ((0 : Nat) / unitsPerOne)
        rw [Nat.cast_zero, zero_div]
        cases sign <;> cases negative <;> simp [signed]

theorem isRounding_of_isNearest (small : q < overflowBound)
    (nearest : (finite negative u).IsNearest (signed negative q)) :
    IsRounding (q * unitsPerOne) u := by
  have pos := unitsPerOne_pos
  have near : ∀ w, Fits w → w < unitsOverflow →
      |(u : ℚ) - q * unitsPerOne| ≤ |(w : ℚ) - q * unitsPerOne| := by
    intro w fits below
    have nearer := nearest.near (finite negative w) ⟨fits, below⟩
    rwa [abs_value_sub, abs_value_sub, div_le_div_iff_of_pos_right pos] at nearer
  -- The magnitudes that are too large are further away than the largest one that is not.
  have far : ∀ w, unitsOverflow ≤ w →
      |(u : ℚ) - q * unitsPerOne| < |(w : ℚ) - q * unitsPerOne| := by
    intro w above
    refine (near _ fits_largestUnits (by decide +kernel)).trans_lt ?_
    have above' : (unitsOverflow : ℚ) ≤ w := by exact_mod_cast above
    have bound : q * unitsPerOne < unitsBound := by
      rw [← overflowBound_mul]
      exact mul_lt_mul_of_pos_right small pos
    have middle : 2 * (unitsBound : ℚ) = largestUnits + unitsOverflow := by
      exact_mod_cast two_mul_unitsBound
    have room : (largestUnits : ℚ) < unitsBound := by exact_mod_cast largestUnits_lt_unitsBound
    rcases abs_cases ((largestUnits : ℚ) - q * unitsPerOne) with left | left <;>
      rcases abs_cases ((w : ℚ) - q * unitsPerOne) with right | right <;> linarith
  refine ⟨(isDouble_finite_iff.mp nearest.double).1, fun w fits => ?_, fun w fits other tie => ?_⟩
  · rcases Nat.lt_or_ge w unitsOverflow with below | above
    · exact near w fits below
    · exact (far w above).le
  · rcases Nat.lt_or_ge w unitsOverflow with below | above
    · refine isEven_finite_iff.mp (nearest.even (finite negative w) ⟨fits, below⟩ ?_ ?_)
      · exact fun equal => other (value_finite_inj.mp equal)
      · rw [abs_value_sub, abs_value_sub, tie]
    · exact absurd tie (far w above).ne'

/-- Nearest as a double, and nearest as a magnitude. -/
theorem isNearest_finite_iff (nonneg : 0 ≤ q) (small : q < overflowBound) :
    (finite negative u).IsNearest (signed negative q) ↔ IsRounding (q * unitsPerOne) u :=
  ⟨isRounding_of_isNearest small, isNearest_of_isRounding nonneg small⟩

end

section

variable {negative : Bool} {n d : Nat}

theorem isRounding_ofRatio (n : Nat) (positive : 0 < d) :
    IsRounding ((n : ℚ) / d * unitsPerOne) (roundUnits (n * unitsPerOne) d) := by
  have rounding := roundUnits_isRounding (n * unitsPerOne) positive
  rwa [Nat.cast_mul, mul_div_right_comm] at rounding

/-- A quotient is rounded to infinity exactly from the bound on. -/
theorem ofRatio_eq_infinite (positive : 0 < d) (large : overflowBound ≤ (n : ℚ) / d) :
    ofRatio negative n d = infinite negative := by
  unfold ofRatio ofUnits
  rw [if_neg]
  rw [(isRounding_ofRatio n positive).lt_unitsOverflow_iff, ← overflowBound_mul, not_lt]
  exact mul_le_mul_of_nonneg_right large unitsPerOne_pos.le

theorem ofRatio_eq_finite (positive : 0 < d) (small : (n : ℚ) / d < overflowBound) :
    ofRatio negative n d = finite negative (roundUnits (n * unitsPerOne) d) := by
  unfold ofRatio ofUnits
  rw [if_pos]
  rw [(isRounding_ofRatio n positive).lt_unitsOverflow_iff, ← overflowBound_mul]
  exact mul_lt_mul_of_pos_right small unitsPerOne_pos

/-- Below the bound a quotient is rounded to the one double of its sign that is nearest. -/
theorem isNearest_ofRatio_iff (positive : 0 < d) (small : (n : ℚ) / d < overflowBound)
    (x : Binary64) :
    x.IsNearest (signed negative (n / d)) ∧ x.isNegative = negative ↔ ofRatio negative n d = x := by
  have nonneg : (0 : ℚ) ≤ n / d := div_nonneg (Nat.cast_nonneg n) (Nat.cast_nonneg d)
  have rounding := isRounding_ofRatio n positive
  rw [ofRatio_eq_finite positive small]
  constructor
  · rintro ⟨nearest, sign⟩
    cases x with
    | nan => cases nearest.double
    | infinite other => cases nearest.double
    | finite other u =>
      obtain rfl : other = negative := sign
      rw [isNearest_finite_iff nonneg small] at nearest
      rw [rounding.unique nearest]
  · rintro rfl
    exact ⟨(isNearest_finite_iff nonneg small).mpr rounding, rfl⟩

end

end Binary64

end Courier
