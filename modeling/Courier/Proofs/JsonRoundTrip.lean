/-
**What JSON carries.**

A value of null, booleans, whole numbers, texts, lists and dictionaries is written as a text from
which it is read back unchanged. The text holds a surrogate exactly if the value does.

* `Json.write_carried`: every such value is written.
* `Json.reread?_of_isCarried`: it is what is read of the text.
-/
import Courier.Proofs.JsonReading
namespace Courier

/-- No code point is a surrogate. -/
def Text.isScalar (t : Text) : Bool :=
  t.all fun c => !c.isSurrogate

namespace Value

/-- A text. -/
def isText : Value → Bool
  | text _ => true
  | _ => false

mutual

/-- JSON carries the value unchanged: it is built from null, booleans, whole numbers that are not
too long, texts, lists, and dictionaries with distinct texts as keys. -/
def isCarried : Value → Bool
  | null => true
  | bool _ => true
  | int i => i.natAbs < tenTo digitLimit
  | text _ => true
  | list elements => areCarried elements
  | dict entries => entriesAreCarried entries
  | _ => false

/-- JSON carries each of the values. -/
def areCarried : List Value → Bool
  | [] => true
  | value :: rest => isCarried value && areCarried rest

/-- JSON carries each of the entries, and each key is a text that none of the later ones repeats. -/
def entriesAreCarried : List (Value × Value) → Bool
  | [] => true
  | (key, value) :: rest =>
    isText key && isCarried value && rest.all (fun entry => !key.sameKey entry.1) &&
      entriesAreCarried rest

end

mutual

/-- No text inside the value has a surrogate. -/
def isScalar : Value → Bool
  | text t => t.isScalar
  | list elements => areScalar elements
  | dict entries => entriesAreScalar entries
  | _ => true

/-- No text inside any of the values has a surrogate. -/
def areScalar : List Value → Bool
  | [] => true
  | value :: rest => isScalar value && areScalar rest

/-- No text inside any of the entries has a surrogate, keys included. -/
def entriesAreScalar : List (Value × Value) → Bool
  | [] => true
  | (key, value) :: rest => isScalar key && isScalar value && entriesAreScalar rest

end

@[simp] theorem isScalar_text (t : Text) : (text t).isScalar = t.isScalar := by
  unfold isScalar
  rfl

@[simp] theorem isScalar_int (i : Int) : (int i).isScalar = true := by
  unfold isScalar
  rfl

theorem distinct_of_entriesAreCarried {entries : Entries} (carried : entriesAreCarried entries) :
    Distinct entries := by
  induction entries with
  | nil => exact List.Pairwise.nil
  | cons entry rest ih =>
    obtain ⟨key, value⟩ := entry
    unfold entriesAreCarried at carried
    simp only [Bool.and_eq_true, List.all_eq_true, Bool.not_eq_true'] at carried
    obtain ⟨⟨-, differs⟩, others⟩ := carried
    exact List.pairwise_cons.mpr ⟨differs, ih others⟩

end Value

namespace Text

theorem isScalar_append (first second : Text) :
    (first ++ second).isScalar = (first.isScalar && second.isScalar) :=
  List.all_append

theorem isScalar_join {separator : Text} (scalar : separator.isScalar) (parts : List Text) :
    (join separator parts).isScalar = parts.all isScalar := by
  induction parts with
  | nil => rfl
  | cons part rest ih =>
    cases rest with
    | nil => simp [join]
    | cons next others =>
      rw [join_cons_cons, isScalar_append, isScalar_append, scalar, ih, Bool.and_true]
      rfl

end Text

namespace Json

/-! ### Surrogates -/

theorem isScalar_escape (c : CodePoint) : (escape c).isScalar = !c.isSurrogate := by
  by_cases quotes : c = CodePoint.ofChar '"'
  · subst quotes
    rfl
  by_cases slash : c = CodePoint.ofChar '\\'
  · subst slash
    rfl
  by_cases visible : 0x20 ≤ c.val
  · unfold escape
    rw [if_neg quotes, if_neg slash, if_pos visible]
    exact Bool.and_true _
  · have each : ∀ n : Fin 0x20, (escape (CodePoint.ofNat n.val)).isScalar =
        !(CodePoint.ofNat n.val).isSurrogate := by
      decide +kernel
    have holds := each ⟨c.val, Nat.lt_of_not_le visible⟩
    rwa [CodePoint.ofNat_val] at holds

theorem isScalar_quote (t : Text) : (quote t).isScalar = t.isScalar := by
  have inside : Text.isScalar (t.flatMap escape) = t.isScalar := by
    induction t with
    | nil => rfl
    | cons c rest ih =>
      rw [List.flatMap_cons, Text.isScalar_append, isScalar_escape, ih]
      rfl
  unfold quote
  rw [Text.isScalar_append, Text.isScalar_append, inside]
  exact Bool.and_true _

theorem isScalar_ofInt (i : Int) : (Text.ofInt i).isScalar := by
  refine List.all_eq_true.mpr fun c member => ?_
  have bounds := ofInt_bounds i c member
  unfold CodePoint.isSurrogate
  grind

/-- What stands between two marks, parts with commas between them, holds a surrogate exactly if a
part does. -/
theorem isScalar_between {opening closing : Text} (first : opening.isScalar)
    (last : closing.isScalar) (parts : List Text) :
    (opening ++ Text.join "," parts ++ closing).isScalar = parts.all Text.isScalar := by
  rw [Text.isScalar_append, Text.isScalar_append, Text.isScalar_join rfl, first, last,
    Bool.true_and, Bool.and_true]

/-! ### Writing -/

theorem write_int {layout : Layout} {i : Int} (short : i.natAbs < tenTo digitLimit) :
    write layout (.int i) = .ok (Text.ofInt i) := by
  unfold write writeInt Courier.writeInt
  rw [if_pos short]

mutual

/-- What JSON carries is written, as a text that holds a surrogate exactly if the value does. -/
theorem write_carried (value : Value) (carried : value.isCarried) :
    ∃ t, write compact value = .ok t ∧ t.isScalar = value.isScalar := by
  unfold Value.isScalar
  cases value with
  | null => exact ⟨_, rfl, rfl⟩
  | bool b =>
    cases b with
    | false => exact ⟨_, rfl, rfl⟩
    | true => exact ⟨_, rfl, rfl⟩
  | int i =>
    unfold Value.isCarried at carried
    exact ⟨_, write_int (of_decide_eq_true carried), isScalar_ofInt i⟩
  | text t => exact ⟨_, rfl, isScalar_quote t⟩
  | list values =>
    unfold Value.isCarried at carried
    obtain ⟨parts, wrote, scalar⟩ := writeEach_carried values carried
    unfold write
    rw [wrote]
    exact ⟨_, rfl, (isScalar_between rfl rfl parts).trans scalar⟩
  | dict entries =>
    unfold Value.isCarried at carried
    obtain ⟨parts, wrote, scalar⟩ := writeEntries_carried entries carried
    unfold write
    rw [wrote]
    exact ⟨_, rfl, (isScalar_between rfl rfl parts).trans scalar⟩
  | float x => cases carried
  | bytes b => cases carried
  | tuple elements => cases carried
  | set elements => cases carried
  | object => cases carried
  | cycle => cases carried

theorem writeEach_carried (values : List Value) (carried : Value.areCarried values) :
    ∃ parts, writeEach compact values = .ok parts ∧
      parts.all Text.isScalar = Value.areScalar values := by
  cases values with
  | nil =>
    unfold Value.areScalar
    exact ⟨[], rfl, rfl⟩
  | cons value rest =>
    unfold Value.areCarried at carried
    obtain ⟨first, others⟩ := Bool.and_eq_true_iff.mp carried
    obtain ⟨t, wrote, scalar⟩ := write_carried value first
    obtain ⟨parts, wrote_rest, scalars⟩ := writeEach_carried rest others
    unfold writeEach Value.areScalar
    rw [wrote, wrote_rest]
    refine ⟨_, rfl, ?_⟩
    rw [List.all_cons, scalar, scalars]

theorem writeEntries_carried (entries : List (Value × Value))
    (carried : Value.entriesAreCarried entries) :
    ∃ parts, writeEntries compact entries = .ok parts ∧
      parts.all Text.isScalar = Value.entriesAreScalar entries := by
  cases entries with
  | nil =>
    unfold Value.entriesAreScalar
    exact ⟨[], rfl, rfl⟩
  | cons entry rest =>
    obtain ⟨key, value⟩ := entry
    unfold Value.entriesAreCarried at carried
    simp only [Bool.and_eq_true] at carried
    obtain ⟨⟨⟨named, first⟩, -⟩, others⟩ := carried
    obtain ⟨content, wrote, scalar⟩ := write_carried value first
    obtain ⟨parts, wrote_rest, scalars⟩ := writeEntries_carried rest others
    cases key with
    | text name =>
      have colon : compact.colon.isScalar := rfl
      unfold writeEntries Value.entriesAreScalar
      rw [wrote, wrote_rest]
      refine ⟨_, rfl, ?_⟩
      rw [List.all_cons, Text.isScalar_append, Text.isScalar_append, isScalar_quote, colon,
        Bool.and_true, scalar, scalars, Value.isScalar_text]
    | _ => cases named

end

/-! ### Reading back -/

mutual

/-- **What JSON carries** is what is read of the text that is written for it. -/
theorem reread?_of_isCarried (value : Value) (carried : value.isCarried) :
    value.reread? = some value := by
  unfold Value.reread?
  cases value with
  | null => rfl
  | bool b => rfl
  | int i => rfl
  | text t => rfl
  | list values =>
    unfold Value.isCarried at carried
    exact congrArg (Option.map Value.list) (rereadEach_of_areCarried values carried)
  | dict entries =>
    unfold Value.isCarried at carried
    have distinct := Value.distinct_of_entriesAreCarried carried
    show (Value.rereadEntries entries).map _ = _
    rw [rereadEntries_of_carried entries carried, Option.map_some,
      Value.entriesOf_of_distinct distinct]
  | float x => cases carried
  | bytes b => cases carried
  | tuple elements => cases carried
  | set elements => cases carried
  | object => cases carried
  | cycle => cases carried

theorem rereadEach_of_areCarried (values : List Value) (carried : Value.areCarried values) :
    Value.rereadEach values = some values := by
  cases values with
  | nil =>
    unfold Value.rereadEach
    rfl
  | cons value rest =>
    unfold Value.areCarried at carried
    obtain ⟨first, others⟩ := Bool.and_eq_true_iff.mp carried
    unfold Value.rereadEach
    rw [reread?_of_isCarried value first, rereadEach_of_areCarried rest others]
    rfl

theorem rereadEntries_of_carried (entries : List (Value × Value))
    (carried : Value.entriesAreCarried entries) :
    Value.rereadEntries entries = some entries := by
  cases entries with
  | nil =>
    unfold Value.rereadEntries
    rfl
  | cons entry rest =>
    obtain ⟨key, value⟩ := entry
    unfold Value.entriesAreCarried at carried
    simp only [Bool.and_eq_true] at carried
    obtain ⟨⟨⟨named, first⟩, -⟩, others⟩ := carried
    cases key with
    | text name =>
      unfold Value.rereadEntries
      rw [reread?_of_isCarried value first, rereadEntries_of_carried rest others]
      rfl
    | _ => cases named

end

end Json

end Courier
