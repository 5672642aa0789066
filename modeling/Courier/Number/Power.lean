/-
**Powers of two and of ten.**

The units of binary64 numbers are counted by powers of two, and decimals by powers of ten.

* `twoTo_pos`, `tenTo_pos`: powers are positive.
* `tenTo_add`: a sum of exponents is a product of powers.
-/
namespace Courier

/-- A power of two. -/
def twoTo (exponent : Nat) : Nat :=
  Nat.pow 2 exponent

/-- A power of ten. -/
def tenTo (exponent : Nat) : Nat :=
  Nat.pow 10 exponent

theorem twoTo_zero : twoTo 0 = 1 :=
  rfl

theorem tenTo_zero : tenTo 0 = 1 :=
  rfl

theorem twoTo_succ (exponent : Nat) : twoTo (exponent + 1) = twoTo exponent * 2 :=
  rfl

theorem tenTo_succ (exponent : Nat) : tenTo (exponent + 1) = tenTo exponent * 10 :=
  rfl

theorem twoTo_pos (exponent : Nat) : 0 < twoTo exponent := by
  induction exponent with
  | zero => decide
  | succ exponent ih =>
    rw [twoTo_succ]
    omega

theorem tenTo_pos (exponent : Nat) : 0 < tenTo exponent := by
  induction exponent with
  | zero => decide
  | succ exponent ih =>
    rw [tenTo_succ]
    omega

theorem tenTo_add (first second : Nat) : tenTo (first + second) = tenTo first * tenTo second := by
  induction second with
  | zero => rw [Nat.add_zero, tenTo_zero, Nat.mul_one]
  | succ second ih => rw [Nat.add_succ, tenTo_succ, tenTo_succ, ih, Nat.mul_assoc]

/-- The numbers of a signed word of 64 bits lie below this one and not below its negative. -/
def wordLimit : Int :=
  0x8000000000000000

end Courier
