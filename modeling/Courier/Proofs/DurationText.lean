/-
**How durations are written.**

A duration has an optional sign, and digits of any script that may have a point behind or between
them, or a point before them. What is written so, and nothing else, is taken for a decimal.

* `Seconds.IsUnsigned`, `Seconds.Spells`: what follows the sign, and the whole.
* `Seconds.unsigned?_eq_some_iff`, `Seconds.decimal?_eq_some_iff`: exactly that is read.
* `Seconds.Spells.exists_digit`: there is no duration without a digit.
-/
import Courier.Proofs.PlainDelays
import Mathlib.Data.List.Forall2
namespace Courier

namespace Seconds

/-! ### Digits, a sign and a point -/

/-- Decimal digits of any script, and what they are worth. -/
def AreDigits (t : Text) (values : List Nat) : Prop :=
  List.Forall₂ (fun c value => c.decimalDigit? = some value) t values

/-- An optional sign; it tells whether it is a minus. -/
inductive IsSign : Text → Bool → Prop
  | none : IsSign [] false
  | plus : IsSign "+" false
  | minus : IsSign "-" true

/-- What follows the sign, and the values of the digits before and after the point. -/
inductive IsUnsigned : Text → List Nat → List Nat → Prop
  /-- Digits alone. -/
  | whole {t : Text} {values : List Nat} (some : values ≠ []) (digits : AreDigits t values) :
    IsUnsigned t values []
  /-- Digits, a point, and any digits. -/
  | pointed {front back : Text} {whole fraction : List Nat} (some : whole ≠ [])
    (before : AreDigits front whole) (after : AreDigits back fraction) :
    IsUnsigned (front ++ CodePoint.ofChar '.' :: back) whole fraction
  /-- A point, and digits. -/
  | led {back : Text} {fraction : List Nat} (some : fraction ≠ [])
    (after : AreDigits back fraction) : IsUnsigned (CodePoint.ofChar '.' :: back) [] fraction

/-- What is written: the sign, and what the digits before and after the point are worth. -/
structure Written where
  negative : Bool
  whole : List Nat
  fraction : List Nat

/-- The text is a sign and what follows it. -/
def Spells (t : Text) (written : Written) : Prop :=
  ∃ sign rest, t = sign ++ rest ∧ IsSign sign written.negative ∧
    IsUnsigned rest written.whole written.fraction

/-- What is written, as a coefficient and a power of ten. -/
def Written.decimal (written : Written) : Decimal :=
  ⟨written.negative, Text.numeral 10 (written.whole ++ written.fraction), -written.fraction.length⟩

/-! ### What is taken for a decimal -/

theorem digits?_eq_some_iff {t : Text} {values : List Nat} :
    digits? t = some values ↔ AreDigits t values := by
  unfold digits? AreDigits
  induction t generalizing values with
  | nil =>
    rw [List.mapM_nil, List.forall₂_nil_left_iff]
    exact Option.some_inj.trans eq_comm
  | cons c rest ih =>
    simp only [List.mapM_cons, Option.bind_eq_bind, Option.bind_eq_some_iff, Option.pure_def,
      Option.some.injEq, ih, List.forall₂_cons_left_iff]
    constructor
    · rintro ⟨value, first, others, later, rfl⟩
      exact ⟨value, others, first, later, rfl⟩
    · rintro ⟨value, others, first, later, rfl⟩
      exact ⟨value, first, others, later, rfl⟩

theorem AreDigits.notMem {t : Text} {values : List Nat} (digits : AreDigits t values)
    {mark : CodePoint} (other : mark.isDecimalDigit = false) : mark ∉ t := by
  intro member
  have digit := isDecimalDigit_of_digits? (digits?_eq_some_iff.mpr digits) mark member
  rw [other] at digit
  cases digit

theorem AreDigits.ne_nil_iff {t : Text} {values : List Nat} (digits : AreDigits t values) :
    values ≠ [] ↔ t ≠ [] := by
  cases digits with
  | nil => simp
  | cons first later => simp

theorem point_not_digit : (CodePoint.ofChar '.').isDecimalDigit = false := by
  decide +kernel

theorem unsigned?_eq_some_iff {t : Text} {whole fraction : List Nat} :
    unsigned? t = some (whole, fraction) ↔ IsUnsigned t whole fraction := by
  constructor
  · intro reads
    unfold unsigned? at reads
    rcases Text.cut_cases '.' t with ⟨-, cut⟩ | ⟨front, back, -, rfl, cut⟩
    · rw [cut] at reads
      simp only [Option.bind_eq_bind, Option.bind_eq_some_iff, digits?_eq_some_iff] at reads
      obtain ⟨values, digits, rest⟩ := reads
      split at rest
      · cases rest
      · rename_i some
        cases rest
        exact .whole (mt List.isEmpty_iff.mpr some) digits
    · rw [cut] at reads
      simp only [Option.bind_eq_bind, Option.bind_eq_some_iff, digits?_eq_some_iff] at reads
      obtain ⟨values, before, others, after, rest⟩ := reads
      split at rest
      · cases rest
      · rename_i some
        cases rest
        simp only [Bool.and_eq_true, List.isEmpty_iff, not_and] at some
        by_cases none : whole = []
        · subst none
          obtain rfl : front = [] := by
            by_contra occupied
            exact before.ne_nil_iff.mpr occupied rfl
          exact .led (some rfl) after
        · exact .pointed none before after
  · rintro (⟨some, digits⟩ | ⟨some, before, after⟩ | ⟨some, after⟩)
    · unfold unsigned?
      rw [Text.cut_of_notMem (digits.notMem point_not_digit)]
      simp [digits?_eq_some_iff.mpr digits, some]
    · unfold unsigned?
      rw [Text.cut_append (before.notMem point_not_digit)]
      simp [digits?_eq_some_iff.mpr before, digits?_eq_some_iff.mpr after, some]
    · have before : AreDigits [] [] := .nil
      unfold unsigned?
      rw [← List.nil_append (_ :: _), Text.cut_append (before.notMem point_not_digit)]
      simp [digits?_eq_some_iff.mpr before, digits?_eq_some_iff.mpr after, some]

/-- Digits begin with a digit, if there are any. -/
theorem AreDigits.exists_cons {t : Text} {values : List Nat} (digits : AreDigits t values)
    (some : values ≠ []) : ∃ c rest, t = c :: rest ∧ c.isDecimalDigit := by
  obtain ⟨c, rest, rfl⟩ := List.exists_cons_of_ne_nil (digits.ne_nil_iff.mp some)
  have each := isDecimalDigit_of_digits? (digits?_eq_some_iff.mpr digits)
  exact ⟨c, rest, rfl, each c List.mem_cons_self⟩

/-- What follows the sign begins with a digit or a point. -/
theorem IsUnsigned.head {t : Text} {whole fraction : List Nat}
    (unsigned : IsUnsigned t whole fraction) :
    ∃ c rest, t = c :: rest ∧ (c.isDecimalDigit ∨ c = CodePoint.ofChar '.') := by
  cases unsigned with
  | whole some digits =>
    obtain ⟨c, rest, rfl, digit⟩ := digits.exists_cons some
    exact ⟨c, rest, rfl, .inl digit⟩
  | pointed some before after =>
    obtain ⟨c, rest, rfl, digit⟩ := before.exists_cons some
    exact ⟨c, _, rfl, .inl digit⟩
  | led some after => exact ⟨_, _, rfl, .inr rfl⟩

/-- The sign is cut off, if there is one. -/
theorem sign_append {sign rest : Text} {negative : Bool} (signs : IsSign sign negative)
    {whole fraction : List Nat} (unsigned : IsUnsigned rest whole fraction) :
    Integer.sign (sign ++ rest) = (negative, rest) := by
  cases signs with
  | plus => rfl
  | minus => rfl
  | none =>
    obtain ⟨c, tail, rfl, starts⟩ := unsigned.head
    have minus : c ≠ CodePoint.ofChar '-' := by
      rintro rfl
      revert starts
      decide +kernel
    have plus : c ≠ CodePoint.ofChar '+' := by
      rintro rfl
      revert starts
      decide +kernel
    unfold Integer.sign
    rw [List.nil_append]
    simp only [if_neg minus, if_neg plus]

theorem isSign_sign (t : Text) :
    ∃ sign, t = sign ++ (Integer.sign t).2 ∧ IsSign sign (Integer.sign t).1 := by
  cases t with
  | nil => exact ⟨[], rfl, .none⟩
  | cons c rest =>
    by_cases minus : c = CodePoint.ofChar '-'
    · subst minus
      exact ⟨"-", rfl, .minus⟩
    by_cases plus : c = CodePoint.ofChar '+'
    · subst plus
      exact ⟨"+", rfl, .plus⟩
    have none : Integer.sign (c :: rest) = (false, c :: rest) := by
      unfold Integer.sign
      simp only [if_neg minus, if_neg plus]
    rw [none]
    exact ⟨[], rfl, .none⟩

theorem decimal?_of_spells {t : Text} {written : Written} (spells : Spells t written) :
    decimal? t = some written.decimal := by
  obtain ⟨sign, rest, rfl, signs, unsigned⟩ := spells
  unfold decimal?
  simp only [sign_append signs unsigned, unsigned?_eq_some_iff.mpr unsigned]
  rfl

/-- Exactly what is written as a duration is taken for a decimal. -/
theorem decimal?_eq_some_iff {t : Text} {decimal : Decimal} :
    decimal? t = some decimal ↔ ∃ written, Spells t written ∧ written.decimal = decimal := by
  constructor
  · intro reads
    unfold decimal? at reads
    obtain ⟨⟨whole, fraction⟩, unsigned, rfl⟩ := Option.map_eq_some_iff.mp reads
    obtain ⟨sign, shape, signs⟩ := isSign_sign t
    exact ⟨⟨_, whole, fraction⟩, ⟨sign, _, shape, signs, unsigned?_eq_some_iff.mp unsigned⟩, rfl⟩
  · rintro ⟨written, spells, rfl⟩
    exact decimal?_of_spells spells

theorem IsUnsigned.exists_digit {t : Text} {whole fraction : List Nat}
    (unsigned : IsUnsigned t whole fraction) : ∃ c ∈ t, c.isDecimalDigit := by
  cases unsigned with
  | whole some digits =>
    obtain ⟨c, rest, rfl, digit⟩ := digits.exists_cons some
    exact ⟨c, List.mem_cons_self, digit⟩
  | pointed some before after =>
    obtain ⟨c, rest, rfl, digit⟩ := before.exists_cons some
    exact ⟨c, List.mem_append_left _ List.mem_cons_self, digit⟩
  | led some after =>
    obtain ⟨c, rest, rfl, digit⟩ := after.exists_cons some
    exact ⟨c, List.mem_cons_of_mem _ List.mem_cons_self, digit⟩

/-- A duration has a digit. -/
theorem Spells.exists_digit {t : Text} {written : Written} (spells : Spells t written) :
    ∃ c ∈ t, c.isDecimalDigit := by
  obtain ⟨sign, rest, rfl, -, unsigned⟩ := spells
  obtain ⟨c, member, digit⟩ := unsigned.exists_digit
  exact ⟨c, List.mem_append_right _ member, digit⟩

end Seconds

end Courier
