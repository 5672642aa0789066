/-
**Plain decimals.**

A text that spells a duration, with blanks around it, is read as the double nearest to its value, as
long as that is no half step beyond the largest double; any other text is refused. So neither an
infinity nor what is no number can come into a table of limits that is filled from signals, whatever
the signals say.

* `Seconds.Written.value`: what a duration is worth.
* `Decimal.toBinary64_of_nonpos`: a decimal without a power of ten is rounded as a quotient.
* `Seconds.parse_cases`: every text is read, out of range, or no duration.
* `Limits.fillsFinitely`: what comes into the table.
* `Seconds.decimals_read`: what is read, and what is refused.
-/
import Courier.Proofs.BackOff
import Courier.Proofs.DurationText
import Courier.Proofs.Flaws
import Courier.Proofs.NearestDoubles
namespace Courier

/-! ### What a decimal is rounded to -/

namespace Decimal

open Binary64

/-- A decimal without a power of ten is rounded as a quotient, however many digits it has. -/
theorem toBinary64_of_nonpos {d : Decimal} (nonpos : d.exponent ≤ 0) :
    d.toBinary64 = .ofRatio d.negative d.coefficient (tenTo d.exponent.natAbs) := by
  have positive := tenTo_pos d.exponent.natAbs
  have positive' : (0 : ℚ) < tenTo d.exponent.natAbs := by exact_mod_cast positive
  -- A quotient that is less than half a unit is rounded to zero.
  have tiny : 2 * (d.coefficient * unitsPerOne) < tenTo d.exponent.natAbs →
      ofRatio d.negative d.coefficient (tenTo d.exponent.natAbs) = .finite d.negative 0 := by
    intro small
    have rounding := isRounding_ofRatio d.coefficient positive
    have small' : 2 * ((d.coefficient : ℚ) * unitsPerOne) < tenTo d.exponent.natAbs := by
      exact_mod_cast small
    have half : (d.coefficient : ℚ) / tenTo d.exponent.natAbs * unitsPerOne < 1 / 2 := by
      rw [div_mul_eq_mul_div, div_lt_iff₀ positive']
      linarith
    have zero := rounding.eq_zero (mul_nonneg (div_nonneg (Nat.cast_nonneg _)
      (Nat.cast_nonneg _)) unitsPerOne_pos.le) half
    unfold ofRatio ofUnits
    rw [zero, if_pos (by decide +kernel)]
  unfold toBinary64
  split
  · rename_i small
    refine (tiny ?_).symm
    simp only [Bool.or_eq_true, decide_eq_true_eq] at small
    rcases small with zero | far
    · rw [zero, Nat.zero_mul]
      exact positive
    · unfold point at far
      obtain ⟨places, split⟩ : ∃ places, d.exponent.natAbs = places + 400 :=
        ⟨d.exponent.natAbs - 400, by omega⟩
      have short : d.coefficient < tenTo places := by
        rw [← Nat.not_le, ← Json.lt_digitCount_iff (by omega)]
        omega
      have room : 2 * unitsPerOne ≤ tenTo 400 := by decide +kernel
      rw [split, tenTo_add]
      calc 2 * (d.coefficient * unitsPerOne) = d.coefficient * (2 * unitsPerOne) :=
            Nat.mul_left_comm ..
        _ ≤ d.coefficient * tenTo 400 := Nat.mul_le_mul_left _ room
        _ < tenTo places * tenTo 400 := Nat.mul_lt_mul_of_pos_right short (tenTo_pos 400)
  split
  · rename_i near far
    refine (ofRatio_eq_infinite positive ?_).symm
    unfold point at far
    have long : tenTo (d.exponent.natAbs + 400) ≤ d.coefficient := by
      rw [← Json.lt_digitCount_iff (by omega)]
      omega
    have huge : overflowBound ≤ tenTo 400 := by
      have bound : unitsBound ≤ tenTo 400 * unitsPerOne := by decide +kernel
      refine le_of_mul_le_mul_right ?_ unitsPerOne_pos
      rw [overflowBound_mul]
      exact_mod_cast bound
    rw [le_div_iff₀ positive', mul_comm]
    calc (tenTo d.exponent.natAbs : ℚ) * overflowBound
        ≤ tenTo d.exponent.natAbs * tenTo 400 := mul_le_mul_of_nonneg_left huge positive'.le
      _ = (tenTo (d.exponent.natAbs + 400) : Nat) := by rw [tenTo_add, Nat.cast_mul]
      _ ≤ d.coefficient := by exact_mod_cast long
  split
  · rename_i whole
    have none : d.exponent = 0 := by omega
    rw [none]
    show ofRatio d.negative (d.coefficient * tenTo 0) 1 = ofRatio d.negative d.coefficient 1
    rw [tenTo_zero, Nat.mul_one]
  · rfl

end Decimal

namespace Seconds

/-! ### What a duration is worth -/

/-- What digits after the point are worth. -/
def fractionValue : List Nat → ℚ
  | [] => 0
  | digit :: rest => (digit + fractionValue rest) / 10

/-- The value of what is written, without its sign. -/
def Written.magnitude (written : Written) : ℚ :=
  Text.numeral 10 written.whole + fractionValue written.fraction

/-- The value of what is written. -/
def Written.value (written : Written) : ℚ :=
  Binary64.signed written.negative written.magnitude

/-- Digits before and after a point are worth as much as one row of digits, divided by a power of
ten. -/
theorem numeral_append_div (whole fraction : List Nat) :
    (Text.numeral 10 (whole ++ fraction) : ℚ) / tenTo fraction.length =
      Text.numeral 10 whole + fractionValue fraction := by
  induction fraction generalizing whole with
  | nil => simp [fractionValue, tenTo_zero]
  | cons digit rest ih =>
    have moved := ih (whole ++ [digit])
    have next : Text.numeral 10 (whole ++ [digit]) = Text.numeral 10 whole * 10 + digit := by
      unfold Text.numeral
      rw [List.foldl_append]
      rfl
    rw [List.append_assoc, List.singleton_append, next] at moved
    rw [List.length_cons, tenTo_succ, Nat.cast_mul, ← div_div, moved]
    show _ = (Text.numeral 10 whole : ℚ) + (digit + fractionValue rest) / 10
    push_cast
    ring

theorem Written.magnitude_eq (written : Written) :
    written.magnitude = (written.decimal.coefficient : ℚ) / tenTo written.fraction.length :=
  (numeral_append_div _ _).symm

theorem Written.toBinary64_decimal (written : Written) :
    written.decimal.toBinary64 = .ofRatio written.negative written.decimal.coefficient
      (tenTo written.fraction.length) := by
  have nonpos : written.decimal.exponent ≤ 0 := by
    show -(written.fraction.length : Int) ≤ 0
    omega
  have places : written.decimal.exponent.natAbs = written.fraction.length := by
    show (-(written.fraction.length : Int)).natAbs = written.fraction.length
    omega
  rw [Decimal.toBinary64_of_nonpos nonpos, places]
  rfl

theorem fractionValue_nonneg (fraction : List Nat) : 0 ≤ fractionValue fraction := by
  induction fraction with
  | nil => exact le_refl _
  | cons digit rest ih => exact div_nonneg (add_nonneg (Nat.cast_nonneg digit) ih) (by norm_num)

theorem Written.magnitude_nonneg (written : Written) : 0 ≤ written.magnitude :=
  add_nonneg (Nat.cast_nonneg _) (fractionValue_nonneg _)

theorem Written.abs_value (written : Written) : |written.value| = written.magnitude := by
  have nonneg := abs_of_nonneg written.magnitude_nonneg
  unfold value Binary64.signed
  split
  · rw [abs_neg, nonneg]
  · exact nonneg

/-! ### What is read -/

section

variable {t : Text} {written : Written}

theorem parse_of_spells (spells : Spells t.strip written) :
    parse t = if written.decimal.toBinary64.isFinite then .ok written.decimal.toBinary64
      else .error (.outOfRange t.strip) := by
  unfold parse
  rw [decimal?_of_spells spells]

/-- A duration below the bound is read as the nearest double. -/
theorem parse_eq_ok_iff (spells : Spells t.strip written)
    (small : |written.value| < Binary64.overflowBound) (x : Binary64) :
    parse t = .ok x ↔ x.IsNearest written.value ∧ x.isNegative = written.negative := by
  have positive := tenTo_pos written.fraction.length
  rw [written.abs_value, written.magnitude_eq] at small
  have finite : written.decimal.toBinary64.isFinite := by
    rw [written.toBinary64_decimal, Binary64.ofRatio_eq_finite positive small]
    rfl
  unfold Written.value
  rw [parse_of_spells spells, if_pos finite, written.magnitude_eq,
    Binary64.isNearest_ofRatio_iff positive small, written.toBinary64_decimal, Except.ok.injEq]

theorem exists_parse (spells : Spells t.strip written)
    (small : |written.value| < Binary64.overflowBound) : ∃ x, parse t = .ok x := by
  have positive := tenTo_pos written.fraction.length
  rw [written.abs_value, written.magnitude_eq] at small
  rw [parse_of_spells spells, written.toBinary64_decimal,
    Binary64.ofRatio_eq_finite positive small]
  exact ⟨_, rfl⟩

/-- A duration from the bound on is refused. -/
theorem parse_eq_outOfRange (spells : Spells t.strip written)
    (large : Binary64.overflowBound ≤ |written.value|) :
    parse t = .error (.outOfRange t.strip) := by
  rw [written.abs_value, written.magnitude_eq] at large
  rw [parse_of_spells spells, written.toBinary64_decimal,
    Binary64.ofRatio_eq_infinite (tenTo_pos _) large]
  rfl

theorem parse_eq_notPlain (other : ¬ ∃ written, Spells t.strip written) :
    parse t = .error (.notPlain t.strip) := by
  have none : decimal? t.strip = none := by
    refine Option.eq_none_iff_forall_ne_some.mpr fun decimal reads => ?_
    obtain ⟨written, spells, -⟩ := decimal?_eq_some_iff.mp reads
    exact other ⟨written, spells⟩
  unfold parse
  rw [none]

/-- Every text is read, out of range, or no duration. -/
theorem parse_cases (t : Text) :
    (∃ written, Spells t.strip written ∧ |written.value| < Binary64.overflowBound ∧
        ∃ x, parse t = .ok x) ∨
      (∃ written, Spells t.strip written ∧ Binary64.overflowBound ≤ |written.value| ∧
        parse t = .error (.outOfRange t.strip)) ∨
      ((¬ ∃ written, Spells t.strip written) ∧ parse t = .error (.notPlain t.strip)) := by
  by_cases plain : ∃ written, Spells t.strip written
  · obtain ⟨written, spells⟩ := plain
    rcases lt_or_ge |written.value| Binary64.overflowBound with small | large
    · exact .inl ⟨written, spells, small, exists_parse spells small⟩
    · exact .inr (.inl ⟨written, spells, large, parse_eq_outOfRange spells large⟩)
  · exact .inr (.inr ⟨plain, parse_eq_notPlain plain⟩)

/-- What is read spells a value below the bound. -/
theorem exists_spells {x : Binary64} (read : parse t = .ok x) :
    ∃ written, Spells t.strip written ∧ |written.value| < Binary64.overflowBound := by
  rcases parse_cases t with ⟨written, spells, small, -⟩ | ⟨-, -, -, refused⟩ | ⟨-, refused⟩
  · exact ⟨written, spells, small⟩
  · rw [refused] at read
    cases read
  · rw [refused] at read
    cases read

/-- What is read is a finite double. -/
theorem parse_isDouble {x : Binary64} (read : parse t = .ok x) : x.IsDouble := by
  obtain ⟨written, spells, small⟩ := exists_spells read
  exact ((parse_eq_ok_iff spells small x).mp read).1.double

end

/-- How a text is read. -/
structure IsRead (t : Text) : Prop where
  /-- It is accepted exactly if it spells, between blanks, a value that is rounded to a finite
  double. -/
  accepted : (∃ x, parse t = .ok x) ↔
    ∃ written, Spells t.strip written ∧ |written.value| < Binary64.overflowBound
  /-- It is then read as the double nearest to that value, with its sign. -/
  nearest : ∀ written, Spells t.strip written → |written.value| < Binary64.overflowBound →
    ∀ x, parse t = .ok x ↔ x.IsNearest written.value ∧ x.isNegative = written.negative
  /-- It is refused as no duration exactly if it spells none. -/
  notPlain : parse t = .error (.notPlain t.strip) ↔ ¬ ∃ written, Spells t.strip written
  /-- It is refused as out of range exactly if its value is too large. -/
  outOfRange : parse t = .error (.outOfRange t.strip) ↔
    ∃ written, Spells t.strip written ∧ Binary64.overflowBound ≤ |written.value|
  /-- What is accepted holds nothing but digits, a sign and a point, and it has a digit. -/
  plain : ∀ x, parse t = .ok x → (∀ c ∈ t.strip, IsPlain c) ∧ ∃ c ∈ t.strip, c.isDecimalDigit
  /-- What it is read as is finite. -/
  finite : ∀ x, parse t = .ok x → x.IsDouble

theorem isRead (t : Text) : IsRead t where
  accepted := by
    constructor
    · rintro ⟨x, read⟩
      exact exists_spells read
    · rintro ⟨written, spells, small⟩
      exact exists_parse spells small
  nearest written := parse_eq_ok_iff
  notPlain := by
    refine ⟨?_, parse_eq_notPlain⟩
    rintro refused ⟨written, spells⟩
    rw [parse_of_spells spells] at refused
    split at refused <;> cases refused
  outOfRange := by
    constructor
    · intro refused
      rcases parse_cases t with ⟨-, -, -, x, read⟩ | ⟨written, spells, large, -⟩ | ⟨-, other⟩
      · rw [read] at refused
        cases refused
      · exact ⟨written, spells, large⟩
      · rw [other] at refused
        cases refused
    · rintro ⟨written, spells, large⟩
      exact parse_eq_outOfRange spells large
  plain x read := by
    obtain ⟨written, spells, -⟩ := exists_spells read
    exact ⟨isPlain_of_decimal? (decimal?_of_spells spells), spells.exists_digit⟩
  finite x := parse_isDouble

end Seconds

/-! ### What comes into the table -/

namespace Binary64

theorem ofRatio_isDouble {negative : Bool} {n d : Nat} (positive : 0 < d)
    (finite : (ofRatio negative n d).isFinite) : (ofRatio negative n d).IsDouble := by
  unfold ofRatio ofUnits at finite ⊢
  by_cases small : roundUnits (n * unitsPerOne) d < unitsOverflow
  · rw [if_pos small]
    exact ⟨(isRounding_ofRatio n positive).fits, small⟩
  · rw [if_neg small] at finite
    cases finite

theorem ofInt_isDouble (i : Int) (finite : (ofInt i).isFinite) : (ofInt i).IsDouble := by
  unfold ofInt at finite ⊢
  exact ofRatio_isDouble Nat.one_pos finite

theorem zero_isDouble : (0 : Binary64).IsDouble := by
  rw [zero_eq]
  exact ⟨fits_zero, twoTo_pos 2098⟩

theorem larger_zero_isDouble {x : Binary64} (double : x.isFinite → x.IsDouble)
    (finite : (x.larger 0).isFinite) : (x.larger 0).IsDouble := by
  unfold larger at finite ⊢
  by_cases below : x < 0
  · rw [if_pos below]
    exact zero_isDouble
  · rw [if_neg below] at finite ⊢
    exact double finite

/-- A number of less than half the largest step, and a finite double, have a finite sum. -/
theorem add_isFinite {negative : Bool} {units : Nat} (small : units < twoTo 2044) {y : Binary64}
    (double : y.IsDouble) : (finite negative units + y).isFinite := by
  cases y with
  | nan => cases double
  | infinite sign => cases double
  | finite sign w =>
    obtain ⟨fits, below⟩ := double
    have largest := fits.le_largestUnits below
    have bound : largestUnits + twoTo 2044 = unitsBound := by decide +kernel
    show (ofSignedUnits (negative && sign)
      (signedUnits negative units + signedUnits sign w)).isFinite
    have sum : (signedUnits negative units + signedUnits sign w).natAbs < unitsBound := by
      unfold signedUnits
      split <;> split <;> omega
    generalize signedUnits negative units + signedUnits sign w = i at sum
    have rounding := roundUnits_isRounding i.natAbs Nat.one_pos
    have below : roundUnits i.natAbs 1 < unitsOverflow := by
      rw [rounding.lt_unitsOverflow_iff, Nat.cast_one, div_one]
      exact_mod_cast sum
    unfold ofSignedUnits ofUnits
    rw [if_pos below]
    split
    · rfl
    · rfl

end Binary64

theorem RetryAfter.fallback_isDouble : fallback.IsDouble := by
  have finite : fallback.isFinite := by decide +kernel
  unfold fallback at finite ⊢
  exact Binary64.ofInt_isDouble _ finite

/-- A delay that is read is a finite double. -/
theorem RetryAfter.delay_isDouble {value : Text} {reading : Reading}
    (reads : read value = .ok reading) {clock : Clock} (shown : clock.IsShown) :
    (reading.delay fallback clock.wall).IsDouble := by
  have finite := (delay_of_read reads shown).1
  cases reading with
  | seconds x =>
    refine Binary64.larger_zero_isDouble (fun _ => ?_) finite
    unfold read at reads
    split at reads
    · rename_i y plain
      cases reads
      exact Seconds.parse_isDouble plain
    · split at reads <;> cases reads
  | date instant =>
    exact Binary64.larger_zero_isDouble (Binary64.ofRatio_isDouble (by decide)) finite
  | nothing text => exact fallback_isDouble

/-- Every span that a signal writes is a finite double. -/
theorem Signal.spans_isDouble {clock : Clock} (shown : clock.IsShown) (signal : Signal) :
    ∀ span ∈ signal.spans clock.wall, span.2.IsDouble := by
  have minute := RetryAfter.fallback_isDouble
  cases signal with
  | limits header =>
    intro span member
    obtain ⟨entry, listed, inside⟩ := List.mem_flatMap.mp member
    obtain ⟨raw, -, rfl⟩ := List.mem_map.mp listed
    unfold Limits.Entry.ofText at inside
    simp only at inside
    split at inside
    · rename_i seconds plain
      obtain ⟨category, -, rfl⟩ := List.mem_map.mp inside
      exact Seconds.parse_isDouble plain
    · cases inside
  | retryAfter value =>
    unfold spans
    simp only
    cases reads : RetryAfter.read value with
    | ok reading => simpa using RetryAfter.delay_isDouble reads shown
    | error fault => simp
  | tooManyRequests => simpa [spans] using minute
  | none => simp [spans]

namespace Limits

/-- The wall clock shows a moment of a year from 1 to 9999 during a call. -/
def Told.IsDated (told : Told Binary64) : Prop :=
  (Clock.mk told.now told.wall).IsShown

/-- The clock shows less than `2 ^ 970` seconds during a call. -/
def Told.IsTimed (told : Told Binary64) : Prop :=
  ∃ negative units, told.now = .finite negative units ∧ units < twoTo 2044

/-- What a history of calls leaves in the table, whatever they tell. -/
structure FillsFinitely (history : List (Told Binary64)) : Prop where
  /-- Every instant is a reading of the clock and a finite double, added. -/
  sums : (∀ told ∈ history, told.IsDated) → ∀ category instant,
    (absorbAll history empty).reset? category = some instant →
      ∃ told ∈ history, ∃ seconds : Binary64, seconds.IsDouble ∧ instant = told.now + seconds
  /-- It is finite itself, as long as the clock shows less than `2 ^ 970` seconds. -/
  finite : (∀ told ∈ history, told.IsDated ∧ told.IsTimed) → ∀ category instant,
    (absorbAll history empty).reset? category = some instant → instant.isFinite

theorem exists_sum {history : List (Told Binary64)} (dated : ∀ told ∈ history, told.IsDated)
    {category : Category} {instant : Binary64}
    (written : (absorbAll history empty).reset? category = some instant) :
    ∃ told ∈ history, ∃ seconds : Binary64, seconds.IsDouble ∧ instant = told.now + seconds := by
  rw [reset?_absorbAll, show (empty : Limits Binary64).reset? category = none from rfl,
    Option.or_none, lastWritten?_eq] at written
  obtain ⟨write, member, rfl⟩ := List.mem_map.mp (List.mem_of_getLast? written)
  obtain ⟨told, listed, inside⟩ := List.mem_flatMap.mp (List.mem_filter.mp member).1
  obtain ⟨span, spans, rfl⟩ := List.mem_map.mp inside
  have double := Signal.spans_isDouble (dated told listed) told.update.signal span spans
  exact ⟨told, listed, span.2, double, rfl⟩

theorem fillsFinitely (history : List (Told Binary64)) : FillsFinitely history where
  sums dated category instant := exists_sum dated
  finite timed category instant written := by
    obtain ⟨told, listed, seconds, double, rfl⟩ :=
      exists_sum (fun told listed => (timed told listed).1) written
    obtain ⟨negative, units, now, small⟩ := (timed told listed).2
    rw [now]
    exact Binary64.add_isFinite small double

end Limits

namespace Seconds

/-- **Exactly plain decimals are read**, as the nearest double, and nothing that is not finite comes
into the table of limits. -/
theorem decimals_read (t : Text) (history : List (Limits.Told Binary64)) :
    IsRead t ∧ Limits.FillsFinitely history :=
  ⟨isRead t, Limits.fillsFinitely history⟩

/-- A duration in digits of another script, with blanks around it. -/
def minusThreeHalves : Text :=
  " -١.٥\t"

theorem minusThreeHalves_spells : Spells minusThreeHalves.strip ⟨true, [1], [5]⟩ := by
  refine ⟨"-", "١.٥", by decide +kernel, .minus, ?_⟩
  have one : AreDigits "١" [1] := .cons (by decide +kernel) .nil
  have five : AreDigits "٥" [5] := .cons (by decide +kernel) .nil
  exact .pointed (List.cons_ne_nil _ _) one five

theorem minusThreeHalves_value : (⟨true, [1], [5]⟩ : Written).value = -(3 / 2) := by
  show -(((1 : Nat) : ℚ) + (((5 : Nat) : ℚ) + 0) / 10) = _
  norm_num

/-- Two entries that are told at one time: the second one has an exponent. -/
def halfTold : List (Limits.Told Binary64) :=
  [⟨1000, 0, .header " +.5:error, 1e3:session"⟩]

/-- The duration is read as one double, and the first entry's instant is finite. -/
theorem minusThreeHalves_read :
    (∃ x, parse minusThreeHalves = .ok x ∧ x.IsNearest (-(3 / 2)) ∧ x.isNegative = true) ∧
      ∃ instant, (Limits.absorbAll halfTold .empty).reset? .error = some instant ∧
        instant.isFinite := by
  obtain ⟨read, fills⟩ := decimals_read minusThreeHalves halfTold
  have small : |(⟨true, [1], [5]⟩ : Written).value| < Binary64.overflowBound := by
    have power : (1 : ℚ) ≤ 2 ^ 1023 := one_le_pow₀ (by norm_num)
    have large : (2 : ℚ) - 1 / 2 ^ 53 ≤ Binary64.overflowBound :=
      le_mul_of_one_le_left (by norm_num) power
    rw [minusThreeHalves_value, abs_neg]
    refine lt_of_lt_of_le ?_ large
    norm_num [abs_of_pos]
  have timed : ∀ told ∈ halfTold, told.IsDated ∧ told.IsTimed := by
    refine List.forall_mem_singleton.mpr ⟨?_, false, 1000 * unitsPerOne, ?_, ?_⟩
    · unfold Limits.Told.IsDated Clock.IsShown
      decide +kernel
    · decide +kernel
    · decide +kernel
  have written : (Limits.absorbAll halfTold .empty).reset? .error =
      some (1000 + .ofRatio false 1 2) := by decide +kernel
  obtain ⟨x, reads⟩ := read.accepted.mpr ⟨_, minusThreeHalves_spells, small⟩
  have nearest := (read.nearest _ minusThreeHalves_spells small x).mp reads
  rw [minusThreeHalves_value] at nearest
  exact ⟨⟨x, reads, nearest⟩, _, written, fills.finite timed .error _ written⟩

end Seconds

end Courier
