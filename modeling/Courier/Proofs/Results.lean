/-
**Computations that may fail.**

What a sequence of steps gives, or a list of them, in terms of what each step gives.

* `bind_eq_ok_iff`, `bind_eq_error_iff`: two steps, one after the other.
* `mapM_eq_ok_iff`: one step for each element of a list.
-/
import Courier.Value.Shown
import Mathlib.Data.List.Forall2
namespace Courier

section Steps

variable {ε α β : Type} {x : Except ε α} {f : α → Except ε β}

theorem bind_eq_ok_iff {b : β} : x >>= f = .ok b ↔ ∃ a, x = .ok a ∧ f a = .ok b := by
  refine ⟨bind_eq_ok, ?_⟩
  rintro ⟨a, rfl, next⟩
  exact next

theorem bind_eq_error_iff {e : ε} :
    x >>= f = .error e ↔ x = .error e ∨ ∃ a, x = .ok a ∧ f a = .error e := by
  cases x <;> simp [bind, Except.bind]

theorem map_eq_ok_iff {g : α → β} {b : β} : x.map g = .ok b ↔ ∃ a, x = .ok a ∧ g a = b := by
  cases x <;> simp [Except.map]

end Steps

/-- Each element is mapped without a fault. -/
theorem mapM_eq_ok_iff {ε α β : Type} {f : α → Except ε β} {l : List α} {m : List β} :
    l.mapM f = .ok m ↔ List.Forall₂ (fun a b => f a = .ok b) l m := by
  induction l generalizing m with
  | nil =>
    rw [List.mapM_nil, List.forall₂_nil_left_iff]
    exact ⟨fun same => (Except.ok.inj same).symm, fun same => congrArg Except.ok same.symm⟩
  | cons a rest ih =>
    rw [List.mapM_cons, bind_eq_ok_iff, List.forall₂_cons_left_iff]
    constructor
    · rintro ⟨value, first, later⟩
      obtain ⟨values, others, same⟩ := bind_eq_ok_iff.mp later
      exact ⟨value, values, first, ih.mp others, (Except.ok.inj same).symm⟩
    · rintro ⟨value, values, first, others, rfl⟩
      exact ⟨value, first, bind_eq_ok_iff.mpr ⟨values, ih.mpr others, rfl⟩⟩

/-- What one side of a relation keeps, each element of a list related to another one keeps. -/
theorem forall_of_forall₂ {α β : Type} {relation : α → β → Prop} {wanted : β → Prop} {l : List α}
    {m : List β} (each : List.Forall₂ relation l m) (keeps : ∀ a b, relation a b → wanted b) :
    ∀ b ∈ m, wanted b := by
  induction each with
  | nil => nofun
  | cons related _ ih => exact List.forall_mem_cons.mpr ⟨keeps _ _ related, ih⟩

end Courier
