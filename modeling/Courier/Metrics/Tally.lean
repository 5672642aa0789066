/-
**Tallies.**

A tally counts events by label. A label takes its place when it is first counted and keeps it.

* `Tally.count_add`: counting a label adds one to it and changes no other.
* `Tally.total_add`: counting any label adds one to the total.
-/
namespace Courier

/-- Counts by label, in the order in which the labels were first counted. -/
structure Tally (α : Type) where
  counts : List (α × Nat)

namespace Tally

variable {α : Type} [DecidableEq α]

/-- Nothing counted. -/
def empty : Tally α :=
  ⟨[]⟩

/-- The count of a label among counts. -/
def countIn (label : α) : List (α × Nat) → Nat
  | [] => 0
  | (key, count) :: rest => if key = label then count else countIn label rest

/-- The count of a label. -/
def count (label : α) (tally : Tally α) : Nat :=
  countIn label tally.counts

/-- Adds one to a label among counts. -/
def addIn (label : α) : List (α × Nat) → List (α × Nat)
  | [] => [(label, 1)]
  | (key, count) :: rest =>
    if key = label then (key, count + 1) :: rest else (key, count) :: addIn label rest

/-- Counts a label once more. -/
def add (label : α) (tally : Tally α) : Tally α :=
  ⟨addIn label tally.counts⟩

/-- The sum of the counts in a list. -/
def sumIn : List (α × Nat) → Nat
  | [] => 0
  | (_, count) :: rest => count + sumIn rest

/-- The sum of all counts. -/
def total (tally : Tally α) : Nat :=
  sumIn tally.counts

omit [DecidableEq α] in
@[simp] theorem total_empty : (empty : Tally α).total = 0 :=
  rfl

@[simp] theorem count_empty (label : α) : (empty : Tally α).count label = 0 :=
  rfl

theorem countIn_addIn (label other : α) (counts : List (α × Nat)) :
    countIn other (addIn label counts) =
      countIn other counts + if other = label then 1 else 0 := by
  induction counts with
  | nil =>
    by_cases same : label = other
    · simp [addIn, countIn, same]
    · simp [addIn, countIn, same, Ne.symm same]
  | cons entry rest ih =>
    obtain ⟨key, count⟩ := entry
    unfold addIn
    by_cases found : key = label
    · subst found
      by_cases same : key = other
      · simp [countIn, same]
      · simp [countIn, same, Ne.symm same]
    · by_cases same : key = other
      · subst same
        simp [countIn, found]
      · simp [countIn, found, same, ih]

theorem count_add (label other : α) (tally : Tally α) :
    (tally.add label).count other = tally.count other + if other = label then 1 else 0 :=
  countIn_addIn label other tally.counts

theorem sumIn_addIn (label : α) (counts : List (α × Nat)) :
    sumIn (addIn label counts) = sumIn counts + 1 := by
  induction counts with
  | nil => rfl
  | cons entry rest ih =>
    unfold addIn
    split
    · simp only [sumIn]
      omega
    · simp only [sumIn, ih]
      omega

@[simp] theorem total_add (label : α) (tally : Tally α) :
    (tally.add label).total = tally.total + 1 :=
  sumIn_addIn label tally.counts

end Tally

end Courier
