/-
**Two views of the limits.**

What is limited can be asked for one category, or seen in a snapshot of all limits that have not
ended. The snapshot has only what was written; the question takes the origin of the clock for what
was not. From the origin on the two views agree, whatever was told and however the clock went
meanwhile. Before it a category is limited also where it, or the wildcard, was never written, of
which the snapshot shows nothing: limits that were told nothing limit everything.

* `Binary64.lt_later_iff`: what is before the later of two instants.
* `Limits.lists_iff`: what a snapshot lists.
* `Limits.views_compared`: the two views, for every category and every reading of the clock.
-/
import Courier.Proofs.ClockOrder
import Courier.Proofs.HeaderNames
import Courier.Proofs.LimitHistory
namespace Courier

/-! ### Instants -/

namespace Binary64

/-- Before the later of two instants is what is before one of them. -/
theorem lt_later_iff {now s t : Binary64} (first : s ≠ nan) (second : t ≠ nan) :
    now < TimeScale.later s t ↔ now < s ∨ now < t := by
  unfold TimeScale.later
  split
  · rename_i below
    simp only [lt_iff, ne_eq, first, second, not_false_iff, true_and] at below ⊢
    rw [← and_or_left]
    exact and_congr_right fun _ => by omega
  · rename_i above
    simp only [lt_iff, ne_eq, first, second, not_false_iff, true_and] at above ⊢
    rw [← and_or_left]
    exact and_congr_right fun _ => by omega

theorem ofUnits_ne_nan (negative : Bool) (units : Nat) : ofUnits negative units ≠ nan := by
  unfold ofUnits
  split <;> nofun

/-- A span that is a number ends at an instant that is one, counted from a finite reading. -/
theorem add_ne_nan {x y : Binary64} (finite : x.isFinite) (number : y ≠ nan) : x + y ≠ nan := by
  show add x y ≠ nan
  cases x with
  | nan => cases finite
  | infinite negative => cases finite
  | finite negative units =>
    cases y with
    | nan => exact absurd rfl number
    | infinite other => nofun
    | finite other more =>
      show ofSignedUnits _ _ ≠ nan
      unfold ofSignedUnits
      split
      · nofun
      · exact ofUnits_ne_nan _ _

theorem ne_nan_of_isFinite {x : Binary64} (finite : x.isFinite) : x ≠ nan := by
  rintro rfl
  cases finite

theorem larger_ne_nan {x y : Binary64} (first : x ≠ nan) (second : y ≠ nan) : x.larger y ≠ nan := by
  unfold larger
  split
  · exact second
  · exact first

end Binary64

/-! ### What is written -/

theorem RetryAfter.secondsOfMicroseconds_ne_nan (count : Int) :
    secondsOfMicroseconds count ≠ .nan := by
  unfold secondsOfMicroseconds Binary64.ofRatio
  exact Binary64.ofUnits_ne_nan _ _

theorem RetryAfter.delay_ne_nan {value : Text} {reading : Reading} (reads : read value = .ok reading)
    (wall : Int) : reading.delay fallback wall ≠ .nan := by
  have zero : (0 : Binary64) ≠ .nan := by decide +kernel
  unfold read at reads
  split at reads
  · rename_i x plain
    cases reads
    exact Binary64.larger_ne_nan (Binary64.ne_nan_of_isFinite (Seconds.parse_isFinite plain)) zero
  split at reads
  · cases reads
    exact Binary64.larger_ne_nan (secondsOfMicroseconds_ne_nan _) zero
  · cases reads
    show fallback ≠ .nan
    decide +kernel
  · cases reads

/-- Every span that a signal writes is a number. -/
theorem Signal.spans_ne_nan (wall : Int) (signal : Signal) :
    ∀ span ∈ signal.spans wall, span.2 ≠ .nan := by
  have minute : RetryAfter.fallback ≠ .nan := by decide +kernel
  cases signal with
  | limits header =>
    intro span member
    obtain ⟨entry, listed, inside⟩ := List.mem_flatMap.mp member
    obtain ⟨raw, -, rfl⟩ := List.mem_map.mp listed
    unfold Limits.Entry.ofText at inside
    simp only at inside
    split at inside
    · rename_i seconds plain
      obtain ⟨category, -, rfl⟩ := List.mem_map.mp inside
      exact Binary64.ne_nan_of_isFinite (Seconds.parse_isFinite plain)
    · cases inside
  | retryAfter value =>
    unfold spans
    simp only
    cases reads : RetryAfter.read value with
    | ok reading => simpa using RetryAfter.delay_ne_nan reads wall
    | error fault => simp
  | tooManyRequests => simpa [spans] using minute
  | none => simp [spans]

namespace Limits

/-- A call at a finite reading of the clock writes instants that are numbers. -/
theorem Told.writes_ne_nan {told : Told Binary64} (finite : told.now.isFinite) :
    ∀ write ∈ told.writes, write.2 ≠ .nan := by
  intro write member
  obtain ⟨span, inside, rfl⟩ := List.mem_map.mp member
  exact Binary64.add_ne_nan finite (Signal.spans_ne_nan told.wall _ span inside)

/-- What was written last is a number. -/
theorem lastWritten?_ne_nan {history : List (Told Binary64)}
    (finite : ∀ told ∈ history, told.now.isFinite) (category : Category) :
    lastWritten? category history ≠ some .nan := by
  intro written
  rw [lastWritten?_eq] at written
  obtain ⟨write, member, isNan⟩ := List.mem_map.mp (List.mem_of_getLast? written)
  obtain ⟨told, listed, inside⟩ := List.mem_flatMap.mp (List.mem_filter.mp member).1
  exact told.writes_ne_nan (finite told listed) write inside isNan

/-! ### The snapshot -/

theorem nodup_writeAll {τ : Type} (writes : List (Category × τ)) {limits : Limits τ}
    (distinct : (limits.resets.map Prod.fst).Nodup) :
    ((limits.writeAll writes).resets.map Prod.fst).Nodup := by
  induction writes using List.reverseRecOn with
  | nil => exact distinct
  | append_singleton writes write ih =>
    rw [writeAll_append]
    exact Keyed.nodup_put ih

/-- The snapshot lists the category. -/
def Lists (limits : Limits Binary64) (now : Binary64) (category : Category) : Prop :=
  category ∈ (limits.snapshot now).map Prod.fst

instance (limits : Limits Binary64) (now : Binary64) (category : Category) :
    Decidable (limits.Lists now category) :=
  inferInstanceAs (Decidable (_ ∈ _))

/-- A snapshot lists the categories whose own instants are ahead. -/
theorem lists_iff {limits : Limits Binary64} (distinct : (limits.resets.map Prod.fst).Nodup)
    {now : Binary64} {category : Category} :
    limits.Lists now category ↔ ∃ instant, limits.reset? category = some instant ∧ now < instant := by
  unfold Lists snapshot active
  simp only [List.mem_map, List.mem_filter, decide_eq_true_eq]
  constructor
  · rintro ⟨_, ⟨_, ⟨⟨_, instant⟩, ⟨listed, ahead⟩, rfl⟩, rfl⟩, rfl⟩
    exact ⟨instant, Keyed.get?_eq_some_of_mem distinct listed, ahead⟩
  · rintro ⟨instant, found, ahead⟩
    exact ⟨_, ⟨_, ⟨_, ⟨Keyed.mem_of_get?_eq_some found, ahead⟩, rfl⟩, rfl⟩, rfl⟩

/-! ### The two views -/

/-- How the question whether a category is limited and the snapshot compare, at a reading of the
clock after some calls. -/
structure Compares (history : List (Told Binary64)) (now : Binary64) (limits : Limits Binary64) :
    Prop where
  /-- A category is limited if it or the wildcard is listed; and, before the origin, if it or the
  wildcard was never written. -/
  limited : ∀ category, limits.isLimited now category ↔
    (limits.Lists now category ∨ limits.Lists now .any) ∨
      (now < 0 ∧ (lastWritten? category history = none ∨ lastWritten? .any history = none))
  /-- From the origin on the two views agree. -/
  agree : ¬ now < 0 → ∀ category,
    limits.isLimited now category ↔ limits.Lists now category ∨ limits.Lists now .any
  /-- Where nothing was told, nothing is listed, and before the origin everything is limited. -/
  untold : history = [] →
    limits.snapshot now = [] ∧ ∀ category, limits.isLimited now category ↔ now < 0

section

variable {history : List (Told Binary64)} {now : Binary64}

theorem lists_absorbAll_iff (history : List (Told Binary64)) {category : Category} :
    (absorbAll history empty).Lists now category ↔
      ∃ instant, lastWritten? category history = some instant ∧ now < instant := by
  have distinct : ((absorbAll history empty).resets.map Prod.fst).Nodup := by
    rw [absorbAll_eq_writeAll]
    exact nodup_writeAll _ List.nodup_nil
  rw [lists_iff distinct, reset?_absorbAll]
  show (∃ instant, (lastWritten? category history).or none = some instant ∧ _) ↔ _
  rw [Option.or_none]

/-- An instant that is taken for the origin where there is none is ahead. -/
theorem lt_getD_iff {written : Option Binary64} :
    now < written.getD 0 ↔
      (∃ instant, written = some instant ∧ now < instant) ∨ (now < 0 ∧ written = none) := by
  cases written with
  | none => simp
  | some instant => simp

theorem isLimited_absorbAll_iff (finite : ∀ told ∈ history, told.now.isFinite)
    (category : Category) :
    (absorbAll history empty).isLimited now category ↔
      now < (lastWritten? category history).getD 0 ∨ now < (lastWritten? .any history).getD 0 := by
  have number : ∀ category, (lastWritten? category history).getD 0 ≠ .nan := by
    intro category
    have known := lastWritten?_ne_nan finite category
    cases written : lastWritten? category history with
    | none =>
      show (0 : Binary64) ≠ .nan
      decide +kernel
    | some instant =>
      rw [written] at known
      exact fun same => known (congrArg some same)
  have table : ∀ category, (absorbAll history empty).reset? category =
      lastWritten? category history := by
    intro category
    rw [reset?_absorbAll]
    exact Option.or_none
  rw [isLimited_iff_before]
  unfold limitedUntil
  rw [table, table]
  exact Binary64.lt_later_iff (number category) (number .any)

/-- **The two views compared**, after any calls at finite readings of the clock, whether or not they
are refused, and whichever way the clock went: they differ only before the origin. -/
theorem views_compared (finite : ∀ told ∈ history, told.now.isFinite) (now : Binary64) :
    Compares history now (absorbAll history empty) := by
  have limited : ∀ category, (absorbAll history empty).isLimited now category ↔
      ((absorbAll history empty).Lists now category ∨ (absorbAll history empty).Lists now .any) ∨
        (now < 0 ∧
          (lastWritten? category history = none ∨ lastWritten? .any history = none)) := by
    intro category
    rw [isLimited_absorbAll_iff finite, lt_getD_iff, lt_getD_iff, lists_absorbAll_iff,
      lists_absorbAll_iff, and_or_left, or_or_or_comm]
  refine ⟨limited, fun after category => ?_, ?_⟩
  · rw [limited, or_iff_left fun before => after before.1]
  · rintro rfl
    refine ⟨rfl, fun category => ?_⟩
    rw [isLimited_absorbAll_iff finite]
    exact or_self_iff

/-- A call at a reading before the origin: errors are limited for a minute. -/
def early : List (Told Binary64) :=
  [⟨-100, 0, .header "60:error"⟩]

/-- Thirty seconds later the snapshot lists errors alone, and transactions are limited all the
same, since neither they nor the wildcard were ever written. -/
theorem early_compares : Compares early (-70) (absorbAll early empty) ∧
    (absorbAll early empty).Lists (-70) .error ∧
      ¬ (absorbAll early empty).Lists (-70) .transaction ∧
        (absorbAll early empty).isLimited (-70) .transaction := by
  have finite : ∀ told ∈ early, told.now.isFinite := by decide +kernel
  exact ⟨views_compared finite (-70), by decide +kernel, by decide +kernel, by decide +kernel⟩

/-- **Ten seconds before the origin**, limits that were told nothing limit every category, of which
the snapshot shows nothing. -/
theorem untold_limits_before_origin : (empty : Limits Binary64).snapshot (-10) = [] ∧
    ∀ category, (empty : Limits Binary64).isLimited (-10) category := by
  refine ⟨rfl, fun category => ?_⟩
  cases category <;> decide +kernel

end

end Limits

end Courier
