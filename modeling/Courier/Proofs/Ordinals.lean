/-
**Days and their dates.**

Every day from the first of January of the year 1 on has a date, and the date counts back to the
day: years, months and days are cut off the count in turn, and each of them is as long as the
calendar says.

* `Date.yearAndIndex_spec`: the year of a day, and the days of that year before it.
* `Date.monthAndDay_spec`: the month of a day, and its place in that month.
* `Date.ordinal_ofOrdinal`, `Date.isValid_ofOrdinal`: the date of a day exists and is that day.
-/
import Courier.Calendar.Moment
import Mathlib.Algebra.Order.BigOperators.Group.List
import Mathlib.Algebra.Order.Ring.Nat
import Mathlib.Data.List.GetD
namespace Courier.Date

/-! ### Months -/

theorem length_monthLengths (leap : Bool) : (monthLengths leap).length = 12 := by
  cases leap <;> rfl

theorem sum_monthLengths (leap : Bool) :
    (monthLengths leap).sum = if leap then 366 else 365 := by
  cases leap <;> rfl

theorem daysBeforeMonth_eq (year month : Nat) :
    daysBeforeMonth year month = ((monthLengths (isLeap year)).take (month - 1)).sum :=
  List.sum_eq_foldl.symm

/-- A day of a stretch of months is in one of them: the months before it are over, and it is no
later than the last day of its own. -/
theorem monthAndDay_spec (month : Nat) {index : Nat} {lengths : List Nat}
    (inside : index < lengths.sum) :
    ∃ past day, monthAndDay month index lengths = (month + past, day) ∧ past < lengths.length ∧
      1 ≤ day ∧ day ≤ lengths.getD past 0 ∧ (lengths.take past).sum + day = index + 1 := by
  induction lengths generalizing month index with
  | nil => cases inside
  | cons length rest ih =>
    rw [List.sum_cons] at inside
    unfold monthAndDay
    by_cases here : index < length
    · rw [if_pos here]
      exact ⟨0, index + 1, rfl, Nat.succ_pos _, Nat.succ_pos _, here, Nat.zero_add _⟩
    · rw [if_neg here]
      have later : index - length < rest.sum := by omega
      obtain ⟨past, day, same, within, first, last, count⟩ := ih (month + 1) later
      refine ⟨past + 1, day, ?_, Nat.succ_lt_succ within, first, ?_, ?_⟩
      · rw [same, Nat.add_assoc, Nat.add_comm 1]
      · rwa [List.getD_cons_succ]
      · rw [List.take_succ_cons, List.sum_cons]
        omega

/-! ### Years -/

/-- A year by the full cycles of four hundred years before it, and the centuries, the four years and
the years that are over in its own: the days before it. -/
theorem daysBeforeYear_parts (cycles : Nat) {centuries quads years : Nat} (century : centuries ≤ 3)
    (quad : quads ≤ 24) (year : years ≤ 3) :
    daysBeforeYear (400 * cycles + 100 * centuries + 4 * quads + years + 1) =
      146097 * cycles + 36524 * centuries + 1461 * quads + 365 * years := by
  unfold daysBeforeYear
  simp only [Nat.add_sub_cancel]
  omega

/-- The last of four years has a leap day, unless it ends a century that is not the last of
four. -/
theorem isLeap_parts_iff (cycles : Nat) {centuries quads years : Nat} (century : centuries ≤ 3)
    (quad : quads ≤ 24) (year : years ≤ 3) :
    isLeap (400 * cycles + 100 * centuries + 4 * quads + years + 1) ↔
      years = 3 ∧ (quads ≠ 24 ∨ centuries = 3) := by
  unfold isLeap
  simp only [Bool.and_eq_true, Bool.or_eq_true, decide_eq_true_eq, bne_iff_ne]
  omega

/-- The year of a day has begun by then, and is not over. -/
theorem yearAndIndex_spec {n : Nat} (counted : 1 ≤ n) :
    1 ≤ (yearAndIndex n).1 ∧ daysBeforeYear (yearAndIndex n).1 + (yearAndIndex n).2 + 1 = n ∧
      (yearAndIndex n).2 < (monthLengths (isLeap (yearAndIndex n).1)).sum := by
  unfold yearAndIndex
  simp only
  generalize cyclesAre : (n - 1) / 146097 = cycles
  generalize inCycleIs : (n - 1) % 146097 = inCycle
  generalize centuriesAre : min 3 (inCycle / 36524) = centuries
  generalize inCenturyIs : inCycle - centuries * 36524 = inCentury
  generalize quadsAre : inCentury / 1461 = quads
  generalize inQuadIs : inCentury % 1461 = inQuad
  generalize yearsAre : min 3 (inQuad / 365) = years
  have century : centuries ≤ 3 ∧ centuries * 36524 ≤ inCycle ∧
      (inCentury < 36524 ∨ (centuries = 3 ∧ inCentury = 36524)) := by omega
  have quad : quads ≤ 24 ∧ (quads < 24 ∨ inQuad < 1460 ∨ centuries = 3) := by omega
  have year : years ≤ 3 ∧ years * 365 ≤ inQuad ∧
      (inQuad < years * 365 + 365 ∨ (years = 3 ∧ inQuad = 1460)) := by omega
  refine ⟨Nat.succ_pos _, ?_, ?_⟩
  · rw [daysBeforeYear_parts cycles century.1 quad.1 year.1]
    omega
  · rw [sum_monthLengths]
    split
    · omega
    · -- A day after the last of 365 is the last one of four years, and so of a leap year.
      rename_i plain
      rw [isLeap_parts_iff cycles century.1 quad.1 year.1] at plain
      omega

/-! ### Dates -/

section

variable {d : Date}

theorem year_of_isValid (valid : d.isValid) : 1 ≤ d.year ∧ d.year ≤ 9999 := by
  simp only [isValid, Bool.and_eq_true, decide_eq_true_eq] at valid
  exact valid.1.1

theorem day_of_isValid (valid : d.isValid) : 1 ≤ d.day ∧ d.day ≤ daysInMonth d.year d.month := by
  simp only [isValid, Bool.and_eq_true, decide_eq_true_eq] at valid
  exact ⟨valid.1.2, valid.2⟩

/-- A month that has days is one of twelve. -/
theorem month_of_isValid (valid : d.isValid) : 1 ≤ d.month ∧ d.month ≤ 12 := by
  obtain ⟨early, late⟩ := day_of_isValid valid
  unfold daysInMonth at late
  split at late
  · omega
  · rename_i counted
    refine ⟨Nat.pos_of_ne_zero counted, Nat.le_of_not_lt fun beyond => ?_⟩
    rw [List.getD_eq_default] at late
    · omega
    · rw [length_monthLengths]
      omega

theorem daysInMonth_le (year month : Nat) : daysInMonth year month ≤ 31 := by
  have short : ∀ leap index, (monthLengths leap).getD index 0 ≤ 31 := by
    intro leap index
    by_cases inside : index < 12
    · revert leap index
      decide
    · rw [List.getD_eq_default]
      · exact Nat.zero_le _
      · rw [length_monthLengths]
        omega
  unfold daysInMonth
  split
  · exact Nat.zero_le _
  · exact short ..

end

theorem ordinal_ofOrdinal {n : Nat} (counted : 1 ≤ n) : (ofOrdinal n).ordinal = n := by
  obtain ⟨-, years, inside⟩ := yearAndIndex_spec counted
  obtain ⟨past, day, same, -, -, -, months⟩ := monthAndDay_spec 1 inside
  unfold ofOrdinal ordinal
  simp only [same, daysBeforeMonth_eq, Nat.add_sub_cancel_left]
  omega

/-- The date of a day exists, up to the last year that has dates. -/
theorem isValid_ofOrdinal {n : Nat} (counted : 1 ≤ n) (last : (ofOrdinal n).year ≤ 9999) :
    (ofOrdinal n).isValid := by
  obtain ⟨first, -, inside⟩ := yearAndIndex_spec counted
  obtain ⟨past, day, same, -, early, late, -⟩ := monthAndDay_spec 1 inside
  have month : daysInMonth (yearAndIndex n).1 (1 + past) =
      (monthLengths (isLeap (yearAndIndex n).1)).getD past 0 := by
    unfold daysInMonth
    rw [if_neg (by omega), Nat.add_sub_cancel_left]
  unfold ofOrdinal at last ⊢
  unfold isValid
  simp only [same] at last ⊢
  rw [month]
  simp only [Bool.and_eq_true, decide_eq_true_eq]
  exact ⟨⟨⟨first, last⟩, early⟩, late⟩

end Courier.Date
