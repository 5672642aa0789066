/-
**Keyed lists.**

Pairs of a key and a value, in the order in which the keys were first set. Setting a key again
changes its value and leaves it in its place.

* `Keyed.get?_put`: setting a key changes what is found under it, and nothing else.
-/
namespace Courier

/-- Values by key, in the order in which the keys were first set. -/
abbrev Keyed (κ α : Type) := List (κ × α)

namespace Keyed

variable {κ α : Type} [DecidableEq κ]

/-- The value under a key. -/
def get? (key : κ) : Keyed κ α → Option α
  | [] => none
  | (other, value) :: rest => if other = key then some value else get? key rest

/-- Sets the value of a key, in place if the key is present, else at the end. -/
def put (key : κ) (value : α) : Keyed κ α → Keyed κ α
  | [] => [(key, value)]
  | entry :: rest =>
    if entry.1 = key then (key, value) :: rest else entry :: put key value rest

/-- The list that comes from setting the pairs in order. -/
def ofPairs (pairs : List (κ × α)) : Keyed κ α :=
  pairs.foldl (fun entries pair => put pair.1 pair.2 entries) []

theorem get?_put (key other : κ) (value : α) (entries : Keyed κ α) :
    get? other (put key value entries) = if other = key then some value else get? other entries := by
  induction entries with
  | nil =>
    by_cases same : other = key
    · simp [put, get?, same]
    · simp [put, get?, same, Ne.symm same]
  | cons entry rest ih =>
    obtain ⟨first, content⟩ := entry
    unfold put
    by_cases found : first = key
    · subst found
      by_cases same : other = first
      · simp [get?, same]
      · simp [get?, same, Ne.symm same]
    · by_cases same : other = first
      · subst same
        simp [get?, found]
      · simp [get?, found, ih, Ne.symm same]

theorem get?_put_same (key : κ) (value : α) (entries : Keyed κ α) :
    get? key (put key value entries) = some value := by
  rw [get?_put, if_pos rfl]

end Keyed

end Courier
