/-
**Rounding a quotient to a whole number.**

Every rounding in this library is one: the exact quotient is taken to the nearest whole number, and
a tie goes to the even neighbour.

* `roundQuotient_near_below`, `roundQuotient_near_above`: the result is within half a unit.
* `roundQuotient_even_of_tie`: a tie goes to the even neighbour.
* `roundQuotient_mul`: whole quotients are kept.
-/
namespace Courier

/-- The whole number nearest to `n / d`, the even one of two. -/
def roundQuotient (n d : Nat) : Nat :=
  if 2 * (n % d) < d then n / d
  else if d < 2 * (n % d) then n / d + 1
  else if n / d % 2 = 0 then n / d
  else n / d + 1

theorem div_le_roundQuotient (n d : Nat) : n / d ≤ roundQuotient n d := by
  unfold roundQuotient
  split
  · exact Nat.le_refl _
  split
  · omega
  split <;> omega

theorem roundQuotient_le_succ (n d : Nat) : roundQuotient n d ≤ n / d + 1 := by
  unfold roundQuotient
  split
  · omega
  split
  · omega
  split <;> omega

theorem roundQuotient_near_below (n : Nat) {d : Nat} (positive : 0 < d) :
    2 * n ≤ 2 * (roundQuotient n d * d) + d := by
  have parts := Nat.div_add_mod n d
  have small := Nat.mod_lt n positive
  have shift : (n / d + 1) * d = d * (n / d) + d := by rw [Nat.add_mul, Nat.mul_comm, Nat.one_mul]
  have same : n / d * d = d * (n / d) := Nat.mul_comm ..
  unfold roundQuotient
  split
  · rw [same]; omega
  split
  · rw [shift]; omega
  split
  · rw [same]; omega
  · rw [shift]; omega

theorem roundQuotient_near_above (n : Nat) {d : Nat} (positive : 0 < d) :
    2 * (roundQuotient n d * d) ≤ 2 * n + d := by
  have parts := Nat.div_add_mod n d
  have small := Nat.mod_lt n positive
  have shift : (n / d + 1) * d = d * (n / d) + d := by rw [Nat.add_mul, Nat.mul_comm, Nat.one_mul]
  have same : n / d * d = d * (n / d) := Nat.mul_comm ..
  unfold roundQuotient
  split
  · rw [same]; omega
  split
  · rw [shift]; omega
  split
  · rw [same]; omega
  · rw [shift]; omega

theorem roundQuotient_even_of_tie {n d : Nat} (tie : 2 * (n % d) = d) :
    roundQuotient n d % 2 = 0 := by
  unfold roundQuotient
  rw [if_neg (by omega), if_neg (by omega)]
  split
  · assumption
  · omega

theorem roundQuotient_mul (q : Nat) {d : Nat} (positive : 0 < d) :
    roundQuotient (q * d) d = q := by
  unfold roundQuotient
  rw [Nat.mul_mod_left, Nat.mul_div_cancel q positive, if_pos (by omega)]

end Courier
