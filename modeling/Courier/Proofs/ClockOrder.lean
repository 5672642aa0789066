/-
**Clock readings and limits.**

Rounding keeps the sign of a difference, so that what remains of a limit is positive exactly as long
as the clock is before its instant. A limit that has ended stays ended while the clock goes on.

* `Binary64.sub_pos_iff`: a difference is positive exactly if the second number is below the first.
* `Binary64.lt_iff`, `Binary64.le_iff`: the order of numbers, by ranks and units.
* `Limits.isLimited_iff_before`: a category is limited exactly before the end of its limit.
* `Limits.isLimited_of_later`: what is limited later is limited now.
-/
import Courier.Limit.Basic
namespace Courier

/-! ### Signs of rounded numbers -/

theorem twoTo_mono {a b : Nat} (le : a ≤ b) : twoTo a ≤ twoTo b :=
  Nat.pow_le_pow_right (by decide) le

/-- Neighbouring magnitudes are no further apart than they are large. -/
theorem spacing_le {u : Nat} (positive : 0 < u) : spacing u ≤ u := by
  have power : twoTo (Nat.log2 u) ≤ u := Nat.log2_self_le (Nat.pos_iff_ne_zero.mp positive)
  exact Nat.le_trans (twoTo_mono (Nat.sub_le _ _)) power

/-- A magnitude of at least one unit is not rounded to zero. -/
theorem roundUnits_pos {n d : Nat} (positive : 0 < n / d) : 0 < roundUnits n d := by
  have quotient : 0 < n / (d * spacing (n / d)) := by
    rw [← Nat.div_div_eq_div_mul]
    exact Nat.div_pos (spacing_le positive) (spacing_pos _)
  have rounded : 0 < roundQuotient n (d * spacing (n / d)) :=
    Nat.lt_of_lt_of_le quotient (div_le_roundQuotient ..)
  exact Nat.mul_pos rounded (spacing_pos _)

namespace Binary64

theorem zero_eq : (0 : Binary64) = .finite false 0 := by
  decide +kernel

theorem ofUnits_pos {u : Nat} (positive : 0 < u) : 0 < ofUnits false u := by
  rw [zero_eq]
  unfold ofUnits
  split
  · rw [lt_iff_of_finite]
    show (0 : Int) < u
    omega
  · exact rfl

theorem ofUnits_neg {u : Nat} (positive : 0 < u) : ofUnits true u < 0 := by
  rw [zero_eq]
  unfold ofUnits
  split
  · rw [lt_iff_of_finite]
    show -(u : Int) < 0
    omega
  · exact rfl

theorem ofUnits_not_neg (u : Nat) : ¬ ofUnits false u < 0 := by
  rw [zero_eq]
  unfold ofUnits
  split
  · rw [lt_iff_of_finite]
    show ¬ (u : Int) < 0
    omega
  · exact Bool.false_ne_true

theorem ofUnits_not_pos (u : Nat) : ¬ 0 < ofUnits true u := by
  rw [zero_eq]
  unfold ofUnits
  split
  · rw [lt_iff_of_finite]
    show ¬ (0 : Int) < -u
    omega
  · exact Bool.false_ne_true

/-- Rounding keeps the sign of a sum of units. -/
theorem ofSignedUnits_pos_iff (zeroSign : Bool) (i : Int) : 0 < ofSignedUnits zeroSign i ↔ 0 < i := by
  unfold ofSignedUnits
  by_cases zero : i = 0
  · rw [if_pos zero, zero, zero_eq, lt_iff_of_finite]
    cases zeroSign <;> decide
  rw [if_neg zero]
  by_cases negative : i < 0
  · rw [decide_eq_true negative]
    exact iff_of_false (ofUnits_not_pos _) (by omega)
  · rw [decide_eq_false negative]
    exact iff_of_true (ofUnits_pos (roundUnits_pos (by omega))) (by omega)

theorem signedUnits_neg (negative : Bool) (u : Nat) :
    signedUnits (!negative) u = -signedUnits negative u := by
  cases negative
  · rfl
  · exact (Int.neg_neg _).symm

/-- A difference is positive exactly if the second number is below the first. -/
theorem sub_pos_iff (x y : Binary64) : 0 < x - y ↔ y < x := by
  cases x with
  | nan =>
    rw [zero_eq]
    refine iff_of_false Bool.false_ne_true ?_
    cases y <;> exact Bool.false_ne_true
  | infinite a =>
    rw [zero_eq]
    cases y with
    | nan => exact iff_of_false Bool.false_ne_true Bool.false_ne_true
    | infinite b => cases a <;> cases b <;> decide
    | finite b n => cases a <;> exact Iff.rfl
  | finite a m =>
    cases y with
    | nan =>
      rw [zero_eq]
      exact iff_of_false Bool.false_ne_true Bool.false_ne_true
    | infinite b =>
      rw [zero_eq]
      cases b <;> exact Iff.rfl
    | finite b n =>
      have exact : finite a m - finite b n =
          ofSignedUnits (a && !b) (signedUnits a m + signedUnits (!b) n) := rfl
      rw [exact, ofSignedUnits_pos_iff, lt_iff_of_finite, signedUnits_neg]
      omega

/-! ### Order -/

/-- Whether a number is below, among or above the finite ones. -/
def rank : Binary64 → Int
  | infinite negative => if negative then -1 else 1
  | _ => 0

/-- The signed units of a finite number. -/
def level : Binary64 → Int
  | finite negative units => signedUnits negative units
  | _ => 0

/-- Numbers are ordered by their ranks, and finite ones by their units. -/
theorem lt_iff (x y : Binary64) :
    x < y ↔ x ≠ nan ∧ y ≠ nan ∧ (x.rank < y.rank ∨ (x.rank = y.rank ∧ x.level < y.level)) := by
  show blt x y = true ↔ _
  cases x with
  | nan => simp [blt]
  | infinite a =>
    cases y with
    | nan => simp [blt]
    | infinite b => cases a <;> cases b <;> simp [blt, rank, level]
    | finite b n => cases a <;> simp [blt, rank]
  | finite a m =>
    cases y with
    | nan => simp [blt]
    | infinite b => cases b <;> simp [blt, rank]
    | finite b n => simp [blt, rank, level]

theorem le_iff (x y : Binary64) :
    x ≤ y ↔ x ≠ nan ∧ y ≠ nan ∧ (x.rank < y.rank ∨ (x.rank = y.rank ∧ x.level ≤ y.level)) := by
  show ble x y = true ↔ _
  cases x with
  | nan => simp [ble, blt, beq]
  | infinite a =>
    cases y with
    | nan => simp [ble, blt, beq]
    | infinite b => cases a <;> cases b <;> simp [ble, blt, beq, rank, level]
    | finite b n => cases a <;> simp [ble, blt, beq, rank]
  | finite a m =>
    cases y with
    | nan => simp [ble, blt, beq]
    | infinite b => cases b <;> simp [ble, blt, beq, rank]
    | finite b n =>
      simp [ble, blt, beq, rank, level]
      omega

theorem lt_of_le_of_lt {x y z : Binary64} (below : x ≤ y) (above : y < z) : x < z := by
  obtain ⟨first, -, before⟩ := (le_iff x y).mp below
  obtain ⟨-, last, after⟩ := (lt_iff y z).mp above
  refine (lt_iff x z).mpr ⟨first, last, ?_⟩
  omega

end Binary64

/-! ### Limits -/

namespace Limits

/-- A category is limited exactly before the end of its limit. -/
theorem isLimited_iff_before (now : Binary64) (category : Category) (limits : Limits Binary64) :
    limits.isLimited now category ↔ now < limits.limitedUntil category := by
  rw [isLimited_iff]
  exact Binary64.sub_pos_iff _ _

/-- What is limited later is limited now. -/
theorem isLimited_of_later {now later : Binary64} (forward : now ≤ later) {category : Category}
    {limits : Limits Binary64} (limited : limits.isLimited later category) :
    limits.isLimited now category := by
  rw [isLimited_iff_before] at limited ⊢
  exact Binary64.lt_of_le_of_lt forward limited

end Limits

end Courier
