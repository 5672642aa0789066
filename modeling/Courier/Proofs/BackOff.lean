/-
**Back-off orders of a server.**

Whatever value the plain back-off header has, it is read as a finite delay that is not negative, and
everything is limited for that long, unless the value is a date with a field that is too large to be
looked at. Such a date is refused instead of being read as no date: the order is not obeyed.

* `HttpDate.Fields.epochSeconds_tooLarge_iff`: the dates that are refused.
* `HttpDate.Fields.natAbs_epochSeconds`: the other dates are not far away.
* `RetryAfter.delay_of_read`: a delay is finite and not negative.
* `Depot.back_off_heeded`: what an order does to the limits.
-/
import Courier.Depot
import Courier.Proofs.ClockOrder
import Mathlib.Algebra.Order.BigOperators.Group.List
import Mathlib.Algebra.Order.Ring.Nat
namespace Courier

/-! ### Finite spans -/

/-- Rounding at most doubles a magnitude. -/
theorem roundUnits_le (n d : Nat) : roundUnits n d ≤ 2 * (n / d) + 1 := by
  have near : spacing (n / d) ≤ n / d + 1 := by
    by_cases zero : n / d = 0
    · rw [zero]
      decide
    · exact Nat.le_succ_of_le (spacing_le (Nat.pos_iff_ne_zero.mpr zero))
  have below : n / (d * spacing (n / d)) * spacing (n / d) ≤ n / d := by
    rw [← Nat.div_div_eq_div_mul]
    exact Nat.div_mul_le_self _ _
  unfold roundUnits
  calc roundQuotient n (d * spacing (n / d)) * spacing (n / d)
      ≤ (n / (d * spacing (n / d)) + 1) * spacing (n / d) :=
        Nat.mul_le_mul_right _ (roundQuotient_le_succ _ _)
    _ = n / (d * spacing (n / d)) * spacing (n / d) + spacing (n / d) := by
        rw [Nat.add_mul, Nat.one_mul]
    _ ≤ n / d + (n / d + 1) := Nat.add_le_add below near
    _ = 2 * (n / d) + 1 := by omega

namespace Binary64

theorem ofRatio_isFinite (negative : Bool) {n d : Nat} (small : n < twoTo 1000) :
    (ofRatio negative n d).isFinite := by
  have bound : roundUnits (n * unitsPerOne) d < unitsOverflow := by
    have quotient : n * unitsPerOne / d ≤ twoTo 1000 * unitsPerOne :=
      Nat.le_trans (Nat.div_le_self _ _) (Nat.mul_le_mul_right _ (Nat.le_of_lt small))
    have room : 2 * (twoTo 1000 * unitsPerOne) + 1 < unitsOverflow := by decide +kernel
    have rounded := roundUnits_le (n * unitsPerOne) d
    omega
  unfold ofRatio ofUnits
  rw [if_pos bound]
  rfl

/-- Of a finite number and zero the larger one is not below zero. -/
theorem zero_le_larger {x : Binary64} (finite : x.isFinite) : 0 ≤ x.larger 0 := by
  cases x with
  | nan => cases finite
  | infinite negative => cases finite
  | finite negative units =>
    unfold larger
    split
    · decide +kernel
    · rename_i above
      rw [zero_eq, lt_iff_of_finite] at above
      rw [zero_eq, le_iff]
      exact ⟨nofun, nofun, .inr ⟨rfl, Int.not_lt.mp above⟩⟩

theorem larger_isFinite {x y : Binary64} (first : x.isFinite) (second : y.isFinite) :
    (x.larger y).isFinite := by
  unfold larger
  split
  · exact second
  · exact first

end Binary64

/-! ### Dates -/

namespace Date

theorem daysBeforeYear_le {year : Nat} (valid : year ≤ 9999) : daysBeforeYear year ≤ 3660000 := by
  unfold daysBeforeYear
  simp only
  omega

theorem daysBeforeMonth_le (year month : Nat) : daysBeforeMonth year month ≤ 366 := by
  have total : (monthLengths (isLeap year)).sum ≤ 366 := by
    cases isLeap year <;> decide
  have part : ((monthLengths (isLeap year)).take (month - 1)).sum ≤
      (monthLengths (isLeap year)).sum :=
    (List.take_sublist _ _).sum_le_sum fun length _ => Nat.zero_le length
  unfold daysBeforeMonth
  rw [← List.sum_eq_foldl]
  exact Nat.le_trans part total

end Date

namespace HttpDate

/-- Each field besides the month fits a machine word. -/
def Fields.fits (fields : Fields) : Bool :=
  fitsWord fields.year && fitsWord fields.day && fitsWord fields.hour && fitsWord fields.minute &&
    fitsWord fields.second

/-- A field is too large to be looked at: the offset spans too many days, or it is an offset within
a day, and another field does not fit a machine word. -/
def Fields.IsOutsized (fields : Fields) : Prop :=
  maxSpanDays < (fields.offset.fdiv 86400).natAbs ∨
    (-86400 < fields.offset ∧ fields.offset < 86400 ∧ fields.fits = false)

/-- Exactly the outsized dates are refused. -/
theorem Fields.epochSeconds_tooLarge_iff (fields : Fields) :
    fields.epochSeconds = .error .tooLarge ↔ fields.IsOutsized := by
  unfold epochSeconds IsOutsized
  by_cases far : maxSpanDays < (fields.offset.fdiv 86400).natAbs
  · rw [if_pos far]
    exact iff_of_true rfl (.inl far)
  rw [if_neg far, or_iff_right far]
  by_cases day : fields.offset ≤ -86400 || 86400 ≤ fields.offset
  · rw [if_pos day]
    refine iff_of_false nofun ?_
    simp only [Bool.or_eq_true, decide_eq_true_eq] at day
    omega
  rw [if_neg day]
  simp only [Bool.or_eq_true, decide_eq_true_eq, not_or, Int.not_le] at day
  rw [and_iff_right day.1, and_iff_right day.2]
  unfold fits
  cases fitsWord fields.year && fitsWord fields.day && fitsWord fields.hour &&
    fitsWord fields.minute && fitsWord fields.second with
  | false => exact iff_of_true rfl rfl
  | true =>
    refine iff_of_false ?_ nofun
    simp only [Bool.not_true, Bool.false_eq_true, if_false]
    split
    · nofun
    · split <;> nofun

theorem fitsWord_le {i : Int} (fits : fitsWord i) : i ≤ 2147483647 := by
  unfold fitsWord at fits
  simp only [Bool.and_eq_true, decide_eq_true_eq] at fits
  exact fits.2

/-- A date that is read is not far away. -/
theorem Fields.natAbs_epochSeconds {fields : Fields} {instant : Int}
    (read : fields.epochSeconds = .ok instant) : instant.natAbs < 2 ^ 48 := by
  unfold epochSeconds at read
  split at read
  · cases read
  split at read
  · cases read
  rename_i offset
  split at read
  · cases read
  rename_i fits
  split at read
  · cases read
  rename_i time
  simp only at read
  split at read
  · rename_i valid
    cases read
    simp only [Bool.or_eq_true, decide_eq_true_eq, not_or, Int.not_le, Int.not_lt] at offset time
    simp only [Bool.not_eq_true', Bool.not_eq_false, Bool.and_eq_true] at fits
    have last : fields.day ≤ 2147483647 := fitsWord_le fits.1.1.1.2
    have year : fields.year.toNat ≤ 9999 := by
      simp only [Date.isValid, Bool.and_eq_true, decide_eq_true_eq] at valid
      exact valid.1.1.2
    have years := Date.daysBeforeYear_le year
    have months := Date.daysBeforeMonth_le fields.year.toNat fields.month
    unfold Date.ordinal Date.epochOrdinal
    simp only
    omega
  · cases read

theorem epochSeconds_tooLarge_iff (t : Text) :
    epochSeconds t = .error .tooLarge ↔ ∃ fields, fields? t = some fields ∧ fields.IsOutsized := by
  unfold epochSeconds
  cases fields? t with
  | none => exact iff_of_false nofun nofun
  | some fields =>
    rw [fields.epochSeconds_tooLarge_iff]
    simp

theorem natAbs_epochSeconds {t : Text} {instant : Int} (read : epochSeconds t = .ok instant) :
    instant.natAbs < 2 ^ 48 := by
  unfold epochSeconds at read
  cases fields : fields? t with
  | none =>
    rw [fields] at read
    cases read
  | some fields' =>
    rw [fields] at read
    exact Fields.natAbs_epochSeconds read

end HttpDate

/-! ### Values -/

/-- The wall clock shows a moment of a year from 1 to 9999. -/
def Clock.IsShown (clock : Clock) : Prop :=
  ((Date.ordinal ⟨1, 1, 1⟩ : Int) - Date.epochOrdinal) * 86400000000 ≤ clock.wall ∧
    clock.wall < ((Date.ordinal ⟨10000, 1, 1⟩ : Int) - Date.epochOrdinal) * 86400000000

theorem Clock.IsShown.natAbs_wall {clock : Clock} (shown : clock.IsShown) :
    clock.wall.natAbs < 2 ^ 60 := by
  have first : Date.ordinal ⟨1, 1, 1⟩ = 1 := by decide
  have last : Date.ordinal ⟨10000, 1, 1⟩ = 3652060 := by decide
  obtain ⟨after, before⟩ := shown
  rw [first] at after
  rw [last] at before
  unfold Date.epochOrdinal at after before
  omega

namespace RetryAfter

/-- The value is no plain duration. -/
def IsNoDuration (value : Text) : Prop :=
  ∃ fault, Seconds.parse value.strip = .error fault

/-- The value is no plain duration, but a date with a field that is too large. -/
def IsOutsized (value : Text) : Prop :=
  IsNoDuration value ∧ ∃ fields, HttpDate.fields? value.strip = some fields ∧ fields.IsOutsized

/-- The value is neither a plain duration nor a date. -/
def IsUnusable (value : Text) : Prop :=
  IsNoDuration value ∧ HttpDate.epochSeconds value.strip = .error .unreadable

theorem read_of_outsized {value : Text} (outsized : IsOutsized value) : read value = .error ⟨⟩ := by
  obtain ⟨⟨fault, unread⟩, fields⟩ := outsized
  have refused := (HttpDate.epochSeconds_tooLarge_iff value.strip).mpr fields
  unfold read
  rw [unread, refused]

theorem read_of_unusable {value : Text} (unusable : IsUnusable value) :
    read value = .ok (.nothing value.strip) := by
  obtain ⟨⟨fault, unread⟩, unreadable⟩ := unusable
  unfold read
  rw [unread, unreadable]

/-- Every other value is read. -/
theorem read_of_not_outsized {value : Text} (sized : ¬ IsOutsized value) :
    ∃ reading, read value = .ok reading := by
  unfold read
  cases plain : Seconds.parse value.strip with
  | ok x => exact ⟨_, rfl⟩
  | error fault =>
    cases date : HttpDate.epochSeconds value.strip with
    | ok instant => exact ⟨_, rfl⟩
    | error fault =>
      cases fault with
      | unreadable => exact ⟨_, rfl⟩
      | tooLarge =>
        have fields := (HttpDate.epochSeconds_tooLarge_iff value.strip).mp date
        exact absurd ⟨⟨_, plain⟩, fields⟩ sized

/-- What is read is a finite number of seconds, an instant that is not far away, or nothing. -/
theorem delay_of_read {value : Text} {reading : Reading} (reads : read value = .ok reading)
    {clock : Clock} (shown : clock.IsShown) :
    (reading.delay fallback clock.wall).isFinite ∧ 0 ≤ reading.delay fallback clock.wall := by
  have zero : (0 : Binary64).isFinite := by
    rw [Binary64.zero_eq]
    rfl
  unfold read at reads
  split at reads
  · rename_i x plain
    cases reads
    have finite := Seconds.parse_isFinite plain
    exact ⟨Binary64.larger_isFinite finite zero, Binary64.zero_le_larger finite⟩
  split at reads
  · rename_i instant date
    cases reads
    have near := HttpDate.natAbs_epochSeconds date
    have wall := shown.natAbs_wall
    have small : (instant * 1000000 - clock.wall).natAbs < 2 ^ 70 := by omega
    have finite : (secondsOfMicroseconds (instant * 1000000 - clock.wall)).isFinite :=
      Binary64.ofRatio_isFinite _ (Nat.lt_trans small (by decide +kernel))
    exact ⟨Binary64.larger_isFinite finite zero, Binary64.zero_le_larger finite⟩
  · cases reads
    have finite : fallback.isFinite := by decide +kernel
    have above : 0 ≤ fallback := by decide +kernel
    exact ⟨finite, above⟩
  · cases reads

end RetryAfter

/-! ### Limits -/

namespace Depot

variable {depot : Depot} {value : Text}

/-- Everything is limited for a delay from now on, and no category is limited otherwise than before. -/
def IsBackedOff (depot : Depot) (delay : Binary64) (after : Depot) : Prop :=
  ∀ category, after.limits.reset? category =
    if category = .any then some (depot.clock.now + delay) else depot.limits.reset? category

theorem readRetryAfter_of_refused (refused : RetryAfter.read value = .error ⟨⟩) (depot : Depot) :
    depot.readRetryAfter value = .error ⟨⟩ := by
  unfold readRetryAfter Limits.afterRetryAfter
  rw [refused]
  rfl

theorem apply_of_refused (refused : RetryAfter.read value = .error ⟨⟩) (depot : Depot) :
    depot.apply (.retryAfter value) = .error ⟨⟩ := by
  unfold apply
  simp only
  rw [readRetryAfter_of_refused refused]
  rfl

theorem readRetryAfter_of_read {reading : RetryAfter.Reading}
    (reads : RetryAfter.read value = .ok reading) (depot : Depot) :
    ∃ after, depot.readRetryAfter value = .ok after ∧
      depot.IsBackedOff (reading.delay RetryAfter.fallback depot.clock.wall) after := by
  unfold readRetryAfter Limits.afterRetryAfter
  rw [reads]
  exact ⟨_, rfl, fun category => Limits.reset?_backOff _ _ _ category⟩

theorem apply_of_read {reading : RetryAfter.Reading}
    (reads : RetryAfter.read value = .ok reading) (depot : Depot) :
    ∃ after, depot.apply (.retryAfter value) = .ok after ∧
      depot.IsBackedOff (reading.delay RetryAfter.fallback depot.clock.wall) after := by
  obtain ⟨after, reads, backs⟩ := readRetryAfter_of_read reads depot
  unfold apply
  simp only
  rw [reads]
  exact ⟨_, rfl, backs⟩

/-- What becomes of the value of a back-off header. -/
structure Heeds (depot : Depot) (value : Text) : Prop where
  /-- An outsized date is refused, and the order is not obeyed. -/
  refused : RetryAfter.IsOutsized value →
    RetryAfter.read value = .error ⟨⟩ ∧ depot.readRetryAfter value = .error ⟨⟩ ∧
      depot.apply (.retryAfter value) = .error ⟨⟩
  /-- Every other value is a finite delay that is not negative, and a minute if it is neither a
  duration nor a date; everything is limited for as long. -/
  obeyed : ¬ RetryAfter.IsOutsized value → ∃ delay : Binary64,
    (RetryAfter.read value).map (·.delay RetryAfter.fallback depot.clock.wall) = .ok delay ∧
      delay.isFinite ∧ 0 ≤ delay ∧ (RetryAfter.IsUnusable value → delay = 60) ∧
      (∃ after, depot.readRetryAfter value = .ok after ∧ depot.IsBackedOff delay after) ∧
      ∃ after, depot.apply (.retryAfter value) = .ok after ∧ depot.IsBackedOff delay after

/-- Every back-off order is heeded, whatever the clocks show and the limits are. -/
theorem back_off_heeded (depot : Depot) (shown : depot.clock.IsShown) (value : Text) :
    depot.Heeds value where
  refused outsized :=
    have refused := RetryAfter.read_of_outsized outsized
    ⟨refused, readRetryAfter_of_refused refused depot, apply_of_refused refused depot⟩
  obeyed sized := by
    obtain ⟨reading, reads⟩ := RetryAfter.read_of_not_outsized sized
    obtain ⟨finite, above⟩ := RetryAfter.delay_of_read reads shown
    refine ⟨_, ?_, finite, above, ?_, readRetryAfter_of_read reads depot, apply_of_read reads depot⟩
    · rw [reads]
      rfl
    · intro unusable
      have nothing := RetryAfter.read_of_unusable unusable
      rw [reads] at nothing
      cases nothing
      rfl

/-- A depot in November 2023. -/
def inNovember : Depot :=
  .opened ⟨1000, 1700000000000000⟩

/-- A word that says nothing limits everything for a minute. -/
theorem back_off_soon :
    inNovember.clock.IsShown ∧ RetryAfter.IsUnusable "soon" ∧
      ∃ after, inNovember.apply (.retryAfter "soon") = .ok after ∧ inNovember.IsBackedOff 60 after := by
  have shown : inNovember.clock.IsShown := ⟨by decide, by decide⟩
  have plain : Seconds.parse ("soon" : Text).strip = .error (.notPlain "soon") := by decide +kernel
  have unreadable : HttpDate.epochSeconds ("soon" : Text).strip = .error .unreadable := by
    decide +kernel
  have unusable : RetryAfter.IsUnusable "soon" := ⟨⟨_, plain⟩, unreadable⟩
  have sized : ¬ RetryAfter.IsOutsized "soon" := by
    rintro ⟨-, fields⟩
    rw [(HttpDate.epochSeconds_tooLarge_iff _).mpr fields] at unreadable
    cases unreadable
  obtain ⟨delay, -, -, -, minute, -, obeyed⟩ := (back_off_heeded inNovember shown "soon").obeyed sized
  rw [minute unusable] at obeyed
  exact ⟨shown, unusable, obeyed⟩

/-- A date whose year is too large is refused, and nothing is limited. -/
theorem outsized_date_refused :
    RetryAfter.read "Wed, 15 Nov 99999999999 00:00:00 GMT" = .error ⟨⟩ ∧
      inNovember.apply (.retryAfter "Wed, 15 Nov 99999999999 00:00:00 GMT") = .error ⟨⟩ := by
  have refused : RetryAfter.read "Wed, 15 Nov 99999999999 00:00:00 GMT" = .error ⟨⟩ := by
    decide +kernel
  exact ⟨refused, apply_of_refused refused inNovember⟩

end Depot

end Courier
