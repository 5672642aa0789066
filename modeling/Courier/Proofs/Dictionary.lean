/-
**What stands in a dictionary.**

A dictionary is what comes from setting keys one after another. No two of its keys are the same,
setting its entries again in order gives it once more, and under a text it has what that text was
last set to.

* `Value.get?_put`: setting a key changes what a text finds only if the key is that text.
* `Value.distinct_entriesOf`: the keys of a dictionary differ.
* `Value.get?_entriesOf`: the last setting of a text counts.
-/
import Courier.Value.Basic
import Mathlib.Data.List.Induction
namespace Courier

namespace Value

/-- A text is the same key as another key exactly if the other key is the same as the text. -/
theorem sameKey_text (name : Text) (key : Value) :
    (text name).sameKey key = key.sameKey (text name) := by
  cases key with
  | text other =>
    unfold sameKey
    exact Bool.beq_comm
  | float x =>
    unfold sameKey
    simp only [wholeNumber?]
    cases x.toInt? <;> rfl
  | _ => rfl

/-- Only a text itself is the same key as the text. -/
theorem sameKey_text_iff {key : Value} {name : Text} :
    key.sameKey (text name) ↔ key = text name := by
  cases key with
  | text other =>
    unfold sameKey
    simp
  | float x =>
    unfold sameKey
    simp only [wholeNumber?]
    cases x.toInt? <;> simp
  | _ => simp [sameKey, wholeNumber?]

/-- No key is the same as an earlier one. -/
def Distinct (entries : Entries) : Prop :=
  entries.Pairwise fun earlier later => earlier.1.sameKey later.1 = false

variable {key value : Value} {entries : Entries}

theorem put_of_absent (absent : ∀ entry ∈ entries, entry.1.sameKey key = false) :
    put key value entries = entries ++ [(key, value)] := by
  induction entries with
  | nil => rfl
  | cons entry rest ih =>
    have other := absent entry (List.mem_cons_self ..)
    have later := ih fun entry member => absent entry (List.mem_cons_of_mem _ member)
    unfold put
    simp [other, later]

/-- Setting a key brings in no other key. -/
theorem key_of_mem_put {entry : Value × Value} (member : entry ∈ put key value entries) :
    entry.1 = key ∨ ∃ before ∈ entries, before.1 = entry.1 := by
  induction entries with
  | nil => exact .inl (congrArg Prod.fst (List.mem_singleton.mp member))
  | cons first rest ih =>
    unfold put at member
    split at member
    · rcases List.mem_cons.mp member with rfl | later
      · exact .inr ⟨first, List.mem_cons_self, rfl⟩
      · exact .inr ⟨entry, List.mem_cons_of_mem _ later, rfl⟩
    · rcases List.mem_cons.mp member with rfl | later
      · exact .inr ⟨entry, List.mem_cons_self, rfl⟩
      · rcases ih later with same | ⟨before, listed, same⟩
        · exact .inl same
        · exact .inr ⟨before, List.mem_cons_of_mem _ listed, same⟩

theorem distinct_put (distinct : Distinct entries) : Distinct (put key value entries) := by
  induction entries with
  | nil => exact List.pairwise_singleton _ _
  | cons first rest ih =>
    obtain ⟨differs, others⟩ := List.pairwise_cons.mp distinct
    unfold put
    split
    · exact List.pairwise_cons.mpr ⟨differs, others⟩
    · rename_i other
      refine List.pairwise_cons.mpr ⟨fun entry member => ?_, ih others⟩
      rcases key_of_mem_put member with same | ⟨before, listed, same⟩
      · rw [same]
        exact Bool.eq_false_iff.mpr other
      · rw [← same]
        exact differs before listed

theorem distinct_entriesOf (pairs : List (Value × Value)) : Distinct (entriesOf pairs) := by
  unfold entriesOf
  induction pairs using List.reverseRecOn with
  | nil => exact List.Pairwise.nil
  | append_singleton pairs pair ih =>
    rw [List.foldl_append]
    exact distinct_put ih

/-- A dictionary whose keys differ is what comes from setting its entries in order. -/
theorem entriesOf_of_distinct (distinct : Distinct entries) : entriesOf entries = entries := by
  unfold entriesOf
  -- Each entry is set after all those before it, so the induction goes by the last one.
  induction entries using List.reverseRecOn with
  | nil => rfl
  | append_singleton entries entry ih =>
    obtain ⟨before, -, last⟩ := List.pairwise_append.mp distinct
    rw [List.foldl_append, ih before]
    exact put_of_absent fun earlier member => last earlier member entry (List.mem_singleton_self _)

/-! ### What a text finds -/

variable {name : Text}

theorem get?_cons (name : Text) (key value : Value) (rest : Entries) :
    get? (text name) ((key, value) :: rest) =
      if key.sameKey (text name) then some value else get? (text name) rest := by
  unfold get?
  rw [List.find?_cons]
  split
  · rename_i same
    rw [if_pos same]
    rfl
  · rename_i other
    rw [if_neg (Bool.eq_false_iff.mp other)]

theorem get?_put (name : Text) (key value : Value) (entries : Entries) :
    get? (text name) (put key value entries) =
      if key.sameKey (text name) then some value else get? (text name) entries := by
  induction entries with
  | nil => exact get?_cons name key value []
  | cons entry rest ih =>
    obtain ⟨first, before⟩ := entry
    unfold put
    by_cases asked : first.sameKey (text name)
    · -- The entry that the text finds is replaced exactly if the key is that text.
      obtain rfl := sameKey_text_iff.mp asked
      simp only [sameKey_text name key]
      split
      · rw [get?_cons, if_pos asked]
      · rw [get?_cons, if_pos asked, get?_cons, if_pos asked]
    · split
      · rename_i same
        have other : ¬ key.sameKey (text name) := by
          intro named
          obtain rfl := sameKey_text_iff.mp named
          exact asked same
        rw [get?_cons, if_neg asked, if_neg other, get?_cons, if_neg asked]
      · rw [get?_cons, if_neg asked, ih, get?_cons, if_neg asked]

/-- Of several settings of a text the last one counts. -/
theorem get?_entriesOf (name : Text) (pairs : List (Value × Value)) :
    get? (text name) (entriesOf pairs) = get? (text name) pairs.reverse := by
  unfold entriesOf
  induction pairs using List.reverseRecOn with
  | nil => rfl
  | append_singleton pairs pair ih =>
    rw [List.foldl_append, List.reverse_append]
    show get? (text name) (put pair.1 pair.2 _) = get? (text name) (pair :: pairs.reverse)
    rw [get?_put, get?_cons, ih]

/-- In a dictionary whose keys differ, the first entry with a text is the last one. -/
theorem get?_reverse (name : Text) (distinct : Distinct entries) :
    get? (text name) entries.reverse = get? (text name) entries := by
  rw [← get?_entriesOf, entriesOf_of_distinct distinct]

/-- What stands before some settings is found only where none of them sets the text. -/
theorem get?_entriesOf_append (name : Text) (before pairs : List (Value × Value)) :
    get? (text name) (entriesOf (before ++ pairs)) =
      (get? (text name) (entriesOf pairs)).or (get? (text name) (entriesOf before)) := by
  rw [get?_entriesOf, get?_entriesOf, get?_entriesOf, List.reverse_append]
  unfold get?
  rw [List.find?_append, Option.map_or]

end Value

end Courier
