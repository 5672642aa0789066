/-
**What a header of limits says.**

Between its commas the header has entries. An entry lasts for the seconds before its first colon,
and names what stands between its first and its second colon: everything if that is blank, else the
real categories among the names between semicolons. An entry without seconds says nothing. Of the
entries that name a category the last one counts, and a category that none of them names is left
alone.

* `Limits.Lasts`, `Limits.Names`: what an entry says, told by the colons of the header itself.
* `Limits.mem_scope_iff`: the categories that an entry is read to limit.
* `Limits.reset?_enter`: what an entry does.
* `Limits.header_heeded`: what a header does.
-/
import Courier.Limit.Update
import Courier.Proofs.Trimming
namespace Courier

/-! ### Names of categories -/

namespace Text

theorem toLower_ne_nil {t : Text} (some : t ≠ []) : t.toLower ≠ [] := by
  obtain ⟨c, rest, rfl⟩ := List.exists_cons_of_ne_nil some
  unfold toLower toLowerAfter
  refine List.append_ne_nil_of_left_ne_nil ?_ _
  split
  · nofun
  split
  · split <;> nofun
  · nofun

end Text

namespace Category

/-- A category of its own: neither the wildcard nor what takes the rest. -/
def IsReal (category : Category) : Prop :=
  category ≠ .any ∧ category ≠ .unknown

instance (category : Category) : Decidable category.IsReal :=
  inferInstanceAs (Decidable (_ ∧ _))

theorem ofName?_eq_some_iff {t : Text} {category : Category} :
    ofName? t = some category ↔ t = Text.ofString category.name := by
  constructor
  · intro found
    unfold ofName? at found
    have same := List.find?_some found
    exact (eq_of_beq same).symm
  · rintro rfl
    cases category <;> rfl

theorem name_ne_nil (category : Category) : Text.ofString category.name ≠ [] := by
  cases category <;> nofun

/-- A name that is not blank means a category exactly if it is the real category's own name. -/
theorem ofHeaderName_eq_iff {t : Text} (named : t.strip ≠ []) {category : Category} :
    (ofHeaderName t = category ∧ category ≠ .unknown) ↔
      category.IsReal ∧ t.strip.toLower = Text.ofString category.name := by
  have some := Text.toLower_ne_nil named
  rw [← ofName?_eq_some_iff]
  unfold ofHeaderName IsReal
  simp only [List.isEmpty_iff, if_neg some]
  cases ofName? t.strip.toLower with
  | none => grind
  | some found => cases found <;> grind

end Category

namespace Limits

/-! ### Entries -/

/-- The entry is well formed: before its first colon stands a plain duration, of so many seconds. -/
def Lasts (raw : Text) (seconds : Binary64) : Prop :=
  Seconds.parse (raw.cut ':').1 = .ok seconds

instance (raw : Text) (seconds : Binary64) : Decidable (Lasts raw seconds) :=
  inferInstanceAs (Decidable (_ = _))

/-- What stands between the first and the second colon of an entry; nothing if it has no colon. -/
def scopeText (raw : Text) : Text :=
  ((raw.cut ':').2.map fun after => (after.cut ':').1).getD []

/-- The entry names the category: a blank scope names the wildcard, any other scope the real
categories whose names are among those between its semicolons, in any letter case and with any
blanks around them. -/
def Names (raw : Text) (category : Category) : Prop :=
  if (scopeText raw).all CodePoint.isBlank then category = .any
  else category.IsReal ∧ ∃ name ∈ Text.splitOn ';' (scopeText raw),
    name.strip.toLower = Text.ofString category.name

instance (raw : Text) (category : Category) : Decidable (Names raw category) :=
  inferInstanceAs (Decidable (ite _ _ _))

theorem parse_strip (t : Text) : Seconds.parse t.strip = Seconds.parse t := by
  unfold Seconds.parse
  rw [Text.strip_strip]

/-- An entry is cut at its colons after it was trimmed; each field, once trimmed, is the same as if
it had been cut at once. -/
theorem map_strip_fields (raw : Text) :
    (Text.splitOn ':' raw.strip).map Text.strip =
      (raw.cut ':').1.strip ::
        (((raw.cut ':').2.map (Text.splitOn ':')).getD []).map Text.strip := by
  rw [Text.map_strip_splitOn (by decide), Text.splitOn_eq_cut, List.map_cons]

/-- The first field of a trimmed entry is the duration. -/
theorem parse_headD_fields (raw : Text) :
    Seconds.parse ((Text.splitOn ':' raw.strip).headD []) = Seconds.parse (raw.cut ':').1 := by
  have fields := map_strip_fields raw
  obtain ⟨first, others, split⟩ :=
    List.exists_cons_of_ne_nil (Text.splitOn_ne_nil ':' raw.strip)
  rw [split, List.map_cons, List.cons.injEq] at fields
  rw [split, List.headD_cons, ← parse_strip first, fields.1, parse_strip]

/-- The second field of a trimmed entry is its scope. -/
theorem strip_headD_tail_fields (raw : Text) :
    ((Text.splitOn ':' raw.strip).tail.headD []).strip = (scopeText raw).strip := by
  have fields := congrArg List.tail (map_strip_fields raw)
  rw [← List.map_tail, List.tail_cons] at fields
  have first : ∀ {l : List Text}, (l.map Text.strip).headD [] = (l.headD []).strip := by
    intro l
    cases l <;> rfl
  rw [← first, fields, first]
  unfold scopeText
  cases (raw.cut ':').2 with
  | none => rfl
  | some after =>
    rw [Option.map_some, Option.map_some, Option.getD_some, Option.getD_some, Text.splitOn_eq_cut,
      List.headD_cons]

/-- The real categories among some names, whether or not the names are trimmed as a whole. -/
theorem mem_categoriesOf_iff {names : Text} {category : Category} :
    category ∈ Entry.categoriesOf names.strip ↔ category.IsReal ∧
      ∃ name ∈ Text.splitOn ';' names, name.strip.toLower = Text.ofString category.name := by
  -- Each name is trimmed anyway, so only the trimmed pieces matter.
  have pieces : ∀ l : List Text,
      (∃ name ∈ l, name.strip.toLower = Text.ofString category.name) ↔
        ∃ t ∈ l.map Text.strip, t.toLower = Text.ofString category.name := by
    intro l
    simp
  have same : (∃ name ∈ Text.splitOn ';' names, name.strip.toLower = Text.ofString category.name) ↔
      ∃ name ∈ Text.splitOn ';' names.strip, name.strip.toLower = Text.ofString category.name := by
    rw [pieces, pieces, Text.map_strip_splitOn (by decide)]
  rw [same]
  unfold Entry.categoriesOf
  simp only [List.mem_filter, List.mem_map, bne_iff_ne, Bool.not_eq_true',
    List.isEmpty_eq_false_iff]
  constructor
  · rintro ⟨⟨name, ⟨listed, named⟩, means⟩, known⟩
    obtain ⟨real, called⟩ := (Category.ofHeaderName_eq_iff named).mp ⟨means, known⟩
    exact ⟨real, name, listed, called⟩
  · rintro ⟨real, name, listed, called⟩
    have named : name.strip ≠ [] := by
      intro blank
      rw [blank] at called
      exact category.name_ne_nil called.symm
    obtain ⟨means, known⟩ := (Category.ofHeaderName_eq_iff named).mpr ⟨real, called⟩
    exact ⟨⟨name, ⟨listed, named⟩, means⟩, known⟩

/-- An entry is read to limit the categories that it names. -/
theorem mem_scope_iff {raw : Text} {category : Category} :
    category ∈ Entry.scope (Text.splitOn ':' raw.strip).tail ↔ Names raw category := by
  have blank : (scopeText raw).strip.isEmpty = (scopeText raw).all CodePoint.isBlank := by
    rw [Bool.eq_iff_iff, List.isEmpty_iff, Text.strip_eq_nil_iff, List.all_eq_true]
  unfold Entry.scope Names
  simp only [strip_headD_tail_fields, blank]
  split
  · exact List.mem_singleton
  · exact mem_categoriesOf_iff

/-- A well-formed entry limits the categories that it names. -/
theorem ofText_of_lasts {raw : Text} {seconds : Binary64} (lasts : Lasts raw seconds) :
    ∃ categories, Entry.ofText raw = .limit seconds categories ∧
      ∀ category, category ∈ categories ↔ Names raw category := by
  unfold Entry.ofText
  simp only [parse_headD_fields]
  rw [show Seconds.parse (raw.cut ':').1 = .ok seconds from lasts]
  exact ⟨_, rfl, fun category => mem_scope_iff⟩

theorem ofText_of_not_lasts {raw : Text} (endless : ∀ seconds, ¬ Lasts raw seconds) :
    Entry.ofText raw = .malformed raw := by
  unfold Entry.ofText
  simp only [parse_headD_fields]
  cases parsed : Seconds.parse (raw.cut ':').1 with
  | ok seconds => exact absurd parsed (endless seconds)
  | error fault => rfl

/-! ### What an entry does -/

section

variable {τ : Type} [TimeScale τ] {now : τ} {raw : Text} {category : Category}

theorem reset?_limitAll (now : τ) (seconds : Binary64) (categories : List Category)
    (category : Category) (limits : Limits τ) :
    (limits.limitAll now seconds categories).reset? category =
      if category ∈ categories then some (now + TimeScale.ofSeconds seconds)
      else limits.reset? category := by
  unfold limitAll
  induction categories generalizing limits with
  | nil => rfl
  | cons first rest ih =>
    rw [List.foldl_cons, ih, reset?_limit]
    grind

/-- A well-formed entry sets the instant of each category that it names. -/
theorem reset?_enter {seconds : Binary64} (lasts : Lasts raw seconds) (names : Names raw category)
    (limits : Limits τ) :
    (enter now limits (Entry.ofText raw)).reset? category =
      some (now + TimeScale.ofSeconds seconds) := by
  obtain ⟨categories, reads, listed⟩ := ofText_of_lasts lasts
  rw [reads]
  exact (reset?_limitAll ..).trans (if_pos ((listed category).mpr names))

/-- An entry that is malformed, or does not name a category, leaves the category alone. -/
theorem reset?_enter_of_silent (silent : ∀ seconds, Lasts raw seconds → ¬ Names raw category)
    (limits : Limits τ) :
    (enter now limits (Entry.ofText raw)).reset? category = limits.reset? category := by
  by_cases formed : ∃ seconds, Lasts raw seconds
  · obtain ⟨seconds, lasts⟩ := formed
    obtain ⟨categories, reads, listed⟩ := ofText_of_lasts lasts
    have unnamed : category ∉ categories := fun member =>
      silent seconds lasts ((listed category).mp member)
    rw [reads]
    exact (reset?_limitAll ..).trans (if_neg unnamed)
  · rw [ofText_of_not_lasts fun seconds lasts => formed ⟨seconds, lasts⟩]
    rfl

/-- Entries of which none names a category leave it alone. -/
theorem reset?_foldl_of_silent {raws : List Text}
    (silent : ∀ raw ∈ raws, ∀ seconds, Lasts raw seconds → ¬ Names raw category)
    (limits : Limits τ) :
    ((raws.map Entry.ofText).foldl (enter now) limits).reset? category =
      limits.reset? category := by
  induction raws generalizing limits with
  | nil => rfl
  | cons raw rest ih =>
    obtain ⟨first, others⟩ := List.forall_mem_cons.mp silent
    rw [List.map_cons, List.foldl_cons, ih others, reset?_enter_of_silent first]

/-! ### What a header does -/

/-- What becomes of a header that is read at one time. -/
structure Heeds (now : τ) (header : Text) (limits after : Limits τ) : Prop where
  /-- It is never refused, whatever the wall clock shows. -/
  returned : ∀ wall, limits.apply now wall (.limits header) = .ok after
  /-- The last well-formed entry that names a category decides until when it is limited. -/
  decided : ∀ (category : Category) (before later : List Text) (raw : Text) (seconds : Binary64),
    Text.splitOn ',' header = before ++ raw :: later →
      Lasts raw seconds → Names raw category →
      (∀ other ∈ later, ∀ span, Lasts other span → ¬ Names other category) →
        after.reset? category = some (now + TimeScale.ofSeconds seconds)
  /-- A category that no well-formed entry names is left alone. -/
  kept : ∀ category : Category,
    (∀ raw ∈ Text.splitOn ',' header, ∀ span, Lasts raw span → ¬ Names raw category) →
      after.reset? category = limits.reset? category

/-- **A header does what its entries say**, whatever text it is and whatever was limited before. -/
theorem header_heeded (now : τ) (header : Text) (limits : Limits τ) :
    Heeds now header limits (limits.afterHeader now header) where
  returned wall := rfl
  decided category before later raw seconds entries lasts names silent := by
    unfold afterHeader Limits.entries
    rw [entries, List.map_append, List.foldl_append, List.map_cons, List.foldl_cons,
      reset?_foldl_of_silent silent, reset?_enter lasts names]
  kept category silent := reset?_foldl_of_silent silent limits

/-- A header of four entries: one that is taken back in part, one without seconds, one that names
nothing that is known, and one that spells its names loosely. -/
def patchwork : Text :=
  "60:error;transaction:organization, x::key, 30:any;default, 5: ;Error ;"

/-- The last entry counts for errors, the first for transactions, and the wildcard is left alone:
neither the entry without seconds nor the one that names unknown categories is taken for all. -/
theorem patchwork_heeded : ∃ after, Heeds (1000 : Binary64) patchwork .empty after ∧
    after.reset? .error = some (1000 + TimeScale.ofSeconds 5) ∧
      after.reset? .transaction = some (1000 + TimeScale.ofSeconds 60) ∧
        after.reset? .any = none := by
  have heeds := header_heeded (1000 : Binary64) patchwork .empty
  have error := heeds.decided .error
    ["60:error;transaction:organization", " x::key", " 30:any;default"] [] " 5: ;Error ;" 5
    (by decide +kernel) (by decide +kernel) (by decide +kernel) nofun
  have transaction := heeds.decided .transaction [] [" x::key", " 30:any;default", " 5: ;Error ;"]
    "60:error;transaction:organization" 60 (by decide +kernel) (by decide +kernel)
    (by decide +kernel)
  have later : ∀ raw ∈ ([" x::key", " 30:any;default", " 5: ;Error ;"] : List Text),
      ¬ Names raw .transaction := by decide +kernel
  refine ⟨_, heeds, error, transaction fun raw listed _ _ => later raw listed, ?_⟩
  refine heeds.kept .any fun raw listed span lasts names => ?_
  have wildcard : ∀ raw ∈ Text.splitOn ',' patchwork, Names raw .any → raw = " x::key" := by
    decide +kernel
  have endless : ¬ (Seconds.parse ((" x::key" : Text).cut ':').1).isOk := by decide +kernel
  obtain rfl := wildcard raw listed names
  unfold Lasts at lasts
  rw [lasts] at endless
  exact endless rfl

end

end Limits

end Courier
