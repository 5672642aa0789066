/-
**Whole numbers in text.**

A whole number may have blanks around it, a sign, and single underscores between its digits, which
may come from any script. More than 4300 digits are refused.

* `Integer.grouped?_digits`: digits without underscores are read as they are.
-/
import Courier.Text.Blank
import Courier.Text.Digit
namespace Courier.Integer

/-- The most digits that are read. -/
def maxDigits : Nat :=
  4300

/-- The values of digits with single underscores between them; `digit` tells which code points are
digits. -/
def grouped? (digit : CodePoint → Option Nat) : Text → Option (List Nat)
  | [] => none
  | c :: rest =>
    match digit c with
    | none => none
    | some value =>
      match rest with
      | [] => some [value]
      | d :: after =>
        if d = '_' then (grouped? digit after).map (value :: ·)
        else (grouped? digit (d :: after)).map (value :: ·)

/-- The sign of a text, and the text after it. -/
def sign (t : Text) : Bool × Text :=
  match t with
  | [] => (false, [])
  | c :: rest => if c = '-' then (true, rest) else if c = '+' then (false, rest) else (false, t)

/-- The whole number of a sign and digits. -/
def ofDigits (negative : Bool) (digits : List Nat) : Int :=
  let value : Int := Text.numeral 10 digits
  if negative then -value else value

/-- The whole number that a text denotes. -/
def parse? (t : Text) : Option Int :=
  let (negative, unsigned) := sign t.strip
  match grouped? CodePoint.decimalDigit? unsigned with
  | none => none
  | some digits => if maxDigits < digits.length then none else some (ofDigits negative digits)

theorem grouped?_digits {digit : CodePoint → Option Nat} {t : Text} {values : List Nat}
    (some : t ≠ []) (plain : digit (CodePoint.ofChar '_') = none)
    (digits : t.mapM digit = Option.some values) : grouped? digit t = Option.some values := by
  induction t generalizing values with
  | nil => exact absurd rfl some
  | cons c rest ih =>
    simp only [List.mapM_cons, Option.bind_eq_bind, Option.bind_eq_some_iff, Option.pure_def,
      Option.some.injEq] at digits
    obtain ⟨value, first, others, later, rfl⟩ := digits
    unfold grouped?
    rw [first]
    cases rest with
    | nil =>
      simp only [List.mapM_nil, Option.pure_def, Option.some.injEq] at later
      subst later
      rfl
    | cons d after =>
      have notMark : d ≠ CodePoint.ofChar '_' := by
        rintro rfl
        simp [List.mapM_cons, plain] at later
      simp only [if_neg notMark]
      rw [ih (by simp) later]
      rfl

end Courier.Integer
