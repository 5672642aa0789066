/-
**Headers by name.**

What is looked for under a name in small letters is found under every letter case of the name. A
response gathers its headers by their names in small ASCII letters and joins the values of those
that come more than once; for a plain name nothing else becomes the same name later, when all of
Unicode counts.

* `ResponseHeaders.value?_eq_some`, `ResponseHeaders.value?_eq_none_iff`: what is found under a
  name.
* `CodePoint.eq_of_smallOf`: the small letters that only ASCII has.
* `Response.value?_fields`: a header of a response is its lines, joined.
-/
import Courier.Delivery.Response
import Courier.Proofs.Trimming
import Mathlib.Data.List.Induction
import Mathlib.Data.List.Nodup
namespace Courier

/-! ### What is found under a name -/

namespace ResponseHeaders

variable {headers : ResponseHeaders} {name value : Text}

/-- Among the headers is one of this name, in any letter case and at any place, with this value. -/
def Carries (headers : ResponseHeaders) (name value : Text) : Prop :=
  ∃ header ∈ headers, header.1.toLower = name ∧ header.2 = value

/-- No header has this name, in any letter case. -/
def Lacks (headers : ResponseHeaders) (name : Text) : Prop :=
  ∀ header ∈ headers, header.1.toLower ≠ name

theorem value?_eq_none_iff : headers.value? name = none ↔ headers.Lacks name := by
  unfold value? Lacks
  rw [Option.map_eq_none_iff, List.findRev?_eq_find?_reverse, List.find?_eq_none]
  simp

/-- A header is found if no other one of its name has another value. -/
theorem value?_eq_some (carries : headers.Carries name value)
    (only : ∀ header ∈ headers, header.1.toLower = name → header.2 = value) :
    headers.value? name = some value := by
  cases found : headers.value? name with
  | none =>
    obtain ⟨header, listed, named, -⟩ := carries
    exact absurd named (value?_eq_none_iff.mp found header listed)
  | some other =>
    unfold value? at found
    rw [List.findRev?_eq_find?_reverse] at found
    obtain ⟨header, first, rfl⟩ := Option.map_eq_some_iff.mp found
    have listed := List.mem_reverse.mp (List.mem_of_find?_eq_some first)
    have named := List.find?_some first
    exact congrArg some (only header listed (eq_of_beq named))

end ResponseHeaders

/-! ### Keys that were set -/

namespace Keyed

variable {κ α : Type} [DecidableEq κ] {key : κ} {value : α} {entries : Keyed κ α}

/-- Setting a key adds it to the keys, unless it is among them. -/
theorem map_fst_put (key : κ) (value : α) (entries : Keyed κ α) :
    (put key value entries).map Prod.fst =
      if key ∈ entries.map Prod.fst then entries.map Prod.fst
      else entries.map Prod.fst ++ [key] := by
  induction entries with
  | nil => rfl
  | cons entry rest ih =>
    obtain ⟨first, content⟩ := entry
    unfold put
    by_cases same : first = key
    · simp [same]
    · rw [if_neg same, List.map_cons, ih]
      have other : key ≠ first := Ne.symm same
      simp only [List.map_cons, List.mem_cons, other, false_or]
      split <;> rfl

theorem nodup_put (distinct : (entries.map Prod.fst).Nodup) :
    ((put key value entries).map Prod.fst).Nodup := by
  rw [map_fst_put]
  split
  · exact distinct
  · rename_i fresh
    exact List.nodup_append.mpr ⟨distinct, List.nodup_singleton key, by grind⟩

theorem get?_eq_some_of_mem (distinct : (entries.map Prod.fst).Nodup)
    (listed : (key, value) ∈ entries) : get? key entries = some value := by
  induction entries with
  | nil => cases listed
  | cons entry rest ih =>
    obtain ⟨first, content⟩ := entry
    obtain ⟨fresh, others⟩ := List.nodup_cons.mp distinct
    unfold get?
    rcases List.mem_cons.mp listed with same | later
    · cases same
      exact if_pos rfl
    · have differs : first ≠ key := by
        rintro rfl
        exact fresh (List.mem_map.mpr ⟨_, later, rfl⟩)
      rw [if_neg differs, ih others later]

theorem mem_of_get?_eq_some (found : get? key entries = some value) : (key, value) ∈ entries := by
  induction entries with
  | nil => cases found
  | cons entry rest ih =>
    obtain ⟨first, content⟩ := entry
    unfold get? at found
    split at found
    · rename_i same
      cases found
      rw [same]
      exact List.mem_cons_self
    · exact List.mem_cons_of_mem _ (ih found)

end Keyed

/-! ### Small letters -/

namespace CodePoint

/-- The runs of capitals whose small letters are in ASCII: the ASCII capitals, and the Kelvin sign,
whose small letter is k. -/
theorem caseRuns_small : ∀ run ∈ caseRuns, run = (0x41, 0x5A, 1, 0x61) ∨
    run = (0x212A, 0x212A, 1, 0x6B) ∨ 0x80 ≤ run.2.2.2 := by
  decide +kernel

/-- Only an ASCII letter has a small letter in ASCII, unless that is k. -/
theorem eq_of_smallOf {n : Nat} (ascii : smallOf n < 0x80) (other : smallOf n ≠ 0x6B) :
    smallOf n = if 0x41 ≤ n ∧ n ≤ 0x5A then n + 0x20 else n := by
  by_cases capital : 0x41 ≤ n ∧ n ≤ 0x5A
  · rw [if_pos capital, smallOf_asciiCapital capital]
  rw [if_neg capital]
  unfold smallOf at ascii other ⊢
  split
  · rename_i run found
    rw [found] at ascii other
    simp only at ascii other
    have inside := List.find?_some found
    simp only [Bool.and_eq_true, decide_eq_true_eq] at inside
    rcases caseRuns_small run (List.mem_of_find?_eq_some found) with rfl | rfl | high
    · exact absurd inside.1 capital
    · simp only at inside other
      omega
    · omega
  · rfl

theorem toAsciiLower_val (c : CodePoint) :
    c.toAsciiLower.val = if 0x41 ≤ c.val ∧ c.val ≤ 0x5A then c.val + 0x20 else c.val := by
  unfold toAsciiLower
  split
  · rw [if_neg (by omega)]
  split
  · rw [if_pos (by omega)]
  · rw [if_neg (by omega)]

theorem ext_val {c d : CodePoint} (same : c.val = d.val) : c = d := by
  cases c
  cases d
  cases same
  rfl

theorem toAsciiLower_toAsciiLower (c : CodePoint) :
    c.toAsciiLower.toAsciiLower = c.toAsciiLower := by
  apply ext_val
  have val := c.toAsciiLower_val
  have again := c.toAsciiLower.toAsciiLower_val
  split at val <;> split at again <;> omega

end CodePoint

namespace Text

/-- A name in small ASCII letters and marks, without the letter k. -/
def IsPlainName (name : Text) : Prop :=
  ∀ c ∈ name, c.val < 0x80 ∧ c.val ≠ 0x6B

theorem toAsciiLower_of_toLowerAfter {name : Text} (plain : IsPlainName name) (before t : Text)
    (same : toLowerAfter before t = name) : t.toAsciiLower = name := by
  induction t generalizing before name with
  | nil =>
    subst same
    rfl
  | cons c rest ih =>
    unfold toLowerAfter at same
    simp only at same
    have low := fun d member => (plain d member).1
    split at same
    · -- The dotted capital I leaves a combining dot behind.
      subst same
      exact absurd (low (CodePoint.ofNat 0x0307) (by simp)) (by decide)
    split at same
    · split at same
      · subst same
        exact absurd (low (CodePoint.ofNat 0x03C2) (by simp)) (by decide)
      · subst same
        exact absurd (low (CodePoint.ofNat 0x03C3) (by simp)) (by decide)
    · subst same
      obtain ⟨first, others⟩ := List.forall_mem_cons.mp plain
      have later := ih others (c :: before) rfl
      have value : (CodePoint.ofNat (CodePoint.smallOf c.val)).val = CodePoint.smallOf c.val := by
        unfold CodePoint.ofNat at first ⊢
        split
        · rfl
        · rename_i large
          rw [dif_neg large] at first
          exact absurd first.1 (by decide)
      rw [value] at first
      have small : c.toAsciiLower = CodePoint.ofNat (CodePoint.smallOf c.val) := by
        apply CodePoint.ext_val
        rw [value, CodePoint.toAsciiLower_val, CodePoint.eq_of_smallOf first.1 first.2]
      unfold toAsciiLower at later ⊢
      rw [List.map_cons, later, small]
      rfl

/-- Whatever becomes a plain name in small letters does so by its ASCII letters alone. -/
theorem toAsciiLower_of_toLower {name t : Text} (plain : IsPlainName name)
    (same : t.toLower = name) : t.toAsciiLower = name :=
  toAsciiLower_of_toLowerAfter plain [] t same

theorem toAsciiLower_toAsciiLower (t : Text) : t.toAsciiLower.toAsciiLower = t.toAsciiLower := by
  unfold toAsciiLower
  rw [List.map_map]
  exact List.map_congr_left fun c _ => c.toAsciiLower_toAsciiLower

end Text

/-! ### The headers of a response -/

namespace Response

/-- The values of the headers whose name is the given one, in the order in which they came. -/
def linesOf (name : Text) (headers : List (Text × Text)) : List Text :=
  (headers.filter fun header => header.1.toAsciiLower = name).map Prod.snd

/-- The lines of a response under a name. -/
def lines (name : Text) (response : Response) : List Text :=
  linesOf name (readHeaders response.headers)

theorem linesOf_concat (name : Text) (headers : List (Text × Text)) (header : Text × Text) :
    linesOf name (headers ++ [header]) =
      if header.1.toAsciiLower = name then linesOf name headers ++ [header.2]
      else linesOf name headers := by
  unfold linesOf
  rw [List.filter_append, List.map_append]
  split
  · rename_i named
    rw [List.filter_cons_of_pos (by simpa using named)]
    rfl
  · rename_i other
    rw [List.filter_cons_of_neg (by simpa using other)]
    exact List.append_nil _

/-- Headers that were gathered one after another. -/
def gathered (headers : List (Text × Text)) : ResponseHeaders :=
  headers.foldl addField []

theorem gathered_concat (headers : List (Text × Text)) (header : Text × Text) :
    gathered (headers ++ [header]) = addField (gathered headers) header :=
  List.foldl_append

/-- What an added header leaves under its name: its value, after what was there before. -/
theorem addField_eq_put (fields : ResponseHeaders) (header : Text × Text) :
    ∃ value, addField fields header = Keyed.put header.1.toAsciiLower value fields ∧
      value = ((Keyed.get? header.1.toAsciiLower fields).map
        (· ++ ", " ++ header.2)).getD header.2 := by
  unfold addField
  simp only
  cases Keyed.get? header.1.toAsciiLower fields <;> exact ⟨_, rfl, rfl⟩

/-- Under a name stand its lines, joined. -/
theorem get?_gathered (name : Text) (headers : List (Text × Text)) :
    Keyed.get? name (gathered headers) =
      if linesOf name headers = [] then none else some (Text.join ", " (linesOf name headers)) := by
  induction headers using List.reverseRecOn with
  | nil => rfl
  | append_singleton headers header ih =>
    obtain ⟨value, added, joined⟩ := addField_eq_put (gathered headers) header
    rw [gathered_concat, added, Keyed.get?_put, linesOf_concat]
    by_cases named : name = header.1.toAsciiLower
    · subst named
      have some := List.append_ne_nil_of_right_ne_nil (linesOf header.1.toAsciiLower headers)
        (List.cons_ne_nil header.2 [])
      rw [if_pos rfl, if_pos rfl, if_neg some, Text.join_concat, joined, ih]
      split <;> rfl
    · rw [if_neg named, if_neg (Ne.symm named), ih]

/-- The gathered names are in small ASCII letters, and no two of them are the same. -/
theorem gathered_names (headers : List (Text × Text)) :
    ((gathered headers).map Prod.fst).Nodup ∧
      ∀ field ∈ gathered headers, field.1.toAsciiLower = field.1 := by
  induction headers using List.reverseRecOn with
  | nil => exact ⟨List.nodup_nil, nofun⟩
  | append_singleton headers header ih =>
    obtain ⟨value, added, -⟩ := addField_eq_put (gathered headers) header
    rw [gathered_concat, added]
    refine ⟨Keyed.nodup_put ih.1, fun field listed => ?_⟩
    have keys := List.mem_map_of_mem (f := Prod.fst) listed
    rw [Keyed.map_fst_put] at keys
    have old : field.1 ∈ (gathered headers).map Prod.fst → field.1.toAsciiLower = field.1 := by
      intro before
      obtain ⟨earlier, member, same⟩ := List.mem_map.mp before
      rw [← same, ih.2 earlier member]
    split at keys
    · exact old keys
    · rcases List.mem_append.mp keys with before | new
      · exact old before
      · rw [List.mem_singleton.mp new, Text.toAsciiLower_toAsciiLower]

/-- **A header of a response** is its lines, joined, if its name is plain and in small letters. -/
theorem value?_fields {name : Text} (plain : name.IsPlainName) (small : name.toLower = name)
    (response : Response) :
    response.fields.value? name = if response.lines name = [] then none
      else some (Text.join ", " (response.lines name)) := by
  have found : Keyed.get? name response.fields = _ :=
    get?_gathered name (readHeaders response.headers)
  obtain ⟨distinct, spelled⟩ := gathered_names (readHeaders response.headers)
  -- No field but the one of this very name becomes the name in small letters.
  have exact_name : ∀ field ∈ response.fields, field.1.toLower = name → field.1 = name := by
    intro field listed named
    rw [← spelled field listed, Text.toAsciiLower_of_toLower plain named]
  unfold lines
  split
  · rename_i nothing
    rw [if_pos nothing] at found
    refine ResponseHeaders.value?_eq_none_iff.mpr fun field listed named => ?_
    have value : Keyed.get? field.1 response.fields = some field.2 :=
      Keyed.get?_eq_some_of_mem distinct listed
    rw [exact_name field listed named] at value
    cases found.symm.trans value
  · rename_i something
    rw [if_neg something] at found
    have listed := Keyed.mem_of_get?_eq_some found
    refine ResponseHeaders.value?_eq_some ⟨_, listed, small, rfl⟩ fun field member named => ?_
    have value : Keyed.get? field.1 response.fields = some field.2 :=
      Keyed.get?_eq_some_of_mem distinct member
    rw [exact_name field member named] at value
    exact Option.some.inj (value.symm.trans found)

end Response

end Courier
