/-
**What JSON reads of a value.**

A value that has a JSON form is read from it with each part in its place: a tuple as a list, a key
as the text that is written for it, a float as the number of its digits, anything else as what it
is. A float that is written as a word is not read, and nothing around it is.

* `Json.write_spells`: what is read of the text that a value is written as, whatever follows it and
  whichever spaces stand after its commas and colons.
* `Json.isSome_reread?`: something is read exactly if no float is written as a word.
-/
import Courier.Proofs.Dictionary
import Courier.Proofs.JsonTokens
import Courier.Proofs.Trimming
import Mathlib.Data.List.Forall2
namespace Courier

namespace Value

mutual

/-- What is read of the text that a value is written as. -/
def reread? : Value → Option Value
  | null => some null
  | bool b => some (bool b)
  | int i => some (int i)
  | float x => (Json.readNumber (Json.writeFloat x)).map (·.1)
  | text t => some (text t)
  | list elements => (rereadEach elements).map list
  | tuple elements => (rereadEach elements).map list
  | dict entries => (rereadEntries entries).map fun pairs => dict (entriesOf pairs)
  | _ => none

/-- What is read of several values. -/
def rereadEach : List Value → Option (List Value)
  | [] => some []
  | value :: rest => do
    let first ← reread? value
    let others ← rereadEach rest
    return first :: others

/-- What is read of several entries: keys that become the same text are not put together yet. -/
def rereadEntries : List (Value × Value) → Option (List (Value × Value))
  | [] => some []
  | (key, value) :: rest => do
    let name ← (Json.keyText key).toOption
    let first ← reread? value
    let others ← rereadEntries rest
    return (text name, first) :: others

end

mutual

/-- No float inside the value is written as a word, keys apart. -/
def isWordless : Value → Bool
  | float x => x.isFinite
  | list elements => areWordless elements
  | tuple elements => areWordless elements
  | dict entries => entriesAreWordless entries
  | _ => true

/-- No float inside any of the values is written as a word. -/
def areWordless : List Value → Bool
  | [] => true
  | value :: rest => isWordless value && areWordless rest

/-- No float inside any of the entries is written as a word, keys apart. -/
def entriesAreWordless : List (Value × Value) → Bool
  | [] => true
  | (_, value) :: rest => isWordless value && entriesAreWordless rest

end

end Value

namespace Json

/-- A text of which a value is read, or nothing at all. -/
structure Spells (told : Option Value) (t : Text) : Prop where
  /-- It starts with the value itself, and not with the closing mark of an empty list. -/
  starts : ∃ c tail, t = c :: tail ∧ isSpace c = false ∧ c ≠ ']'
  /-- It holds no control character. -/
  visible : ∀ c ∈ t, 0x20 ≤ c.val
  /-- It is read as the value, and nothing after it is. -/
  back : ∀ fuel rest, t.length ≤ fuel → Closes rest →
    readValue fuel (t ++ rest) = told.map fun value => (value, rest)

theorem closes_nil : Closes [] :=
  nofun

theorem closes_cons {c : CodePoint} (mark : c = ',' ∨ c = ']' ∨ c = '\x7d') (rest : Text) :
    Closes (c :: rest) := by
  intro d first
  cases first
  exact mark

theorem skip_cons {c : CodePoint} (solid : isSpace c = false) (rest : Text) :
    skip (c :: rest) = c :: rest := by
  unfold skip
  rw [List.dropWhile_cons, if_neg (by rw [solid]; exact Bool.false_ne_true)]

/-! ### White space -/

/-- White space and nothing else. -/
def IsBlank (t : Text) : Prop :=
  ∀ c ∈ t, isSpace c

theorem skip_append {gap : Text} (blank : IsBlank gap) (t : Text) : skip (gap ++ t) = skip t :=
  List.dropWhile_append_of_pos blank

/-- White space before a value is not read. -/
theorem readValue_append {gap : Text} (blank : IsBlank gap) (fuel : Nat) (t : Text) :
    readValue fuel (gap ++ t) = readValue fuel t := by
  cases fuel with
  | zero =>
    rw [readValue]
    rfl
  | succ fuel => rw [readValue, readValue, skip_append blank]

theorem readElements_append {gap : Text} (blank : IsBlank gap) (fuel : Nat) (t : Text) :
    readElements fuel (gap ++ t) = readElements fuel t := by
  cases fuel with
  | zero =>
    rw [readElements]
    rfl
  | succ fuel => rw [readElements, readElements, readValue_append blank]

theorem readEntries_append {gap : Text} (blank : IsBlank gap) (fuel : Nat) (t : Text) :
    readEntries fuel (gap ++ t) = readEntries fuel t := by
  cases fuel with
  | zero =>
    rw [readEntries]
    rfl
  | succ fuel => rw [readEntries, readEntries, skip_append blank]

/-- Spaces and nothing else. -/
def IsGap (t : Text) : Prop :=
  ∀ c ∈ t, c = CodePoint.ofChar ' '

theorem IsGap.blank {gap : Text} (spaces : IsGap gap) : IsBlank gap := by
  intro c member
  rw [spaces c member]
  decide

theorem IsGap.visible {gap : Text} (spaces : IsGap gap) : ∀ c ∈ gap, 0x20 ≤ c.val := by
  intro c member
  rw [spaces c member]
  decide

/-- Only spaces stand beside the commas and colons, and these stand before them. -/
structure Layout.IsPlain (layout : Layout) : Prop where
  comma : ∃ gap, IsGap gap ∧ layout.comma = CodePoint.ofChar ',' :: gap
  colon : ∃ gap, IsGap gap ∧ layout.colon = CodePoint.ofChar ':' :: gap

theorem compact_isPlain : compact.IsPlain where
  comma := ⟨[], nofun, rfl⟩
  colon := ⟨[], nofun, rfl⟩

theorem spaced_isPlain : spaced.IsPlain where
  comma := ⟨" ", by unfold IsGap; decide, rfl⟩
  colon := ⟨" ", by unfold IsGap; decide, rfl⟩

theorem Layout.IsPlain.visible_comma {layout : Layout} (plain : layout.IsPlain) :
    ∀ c ∈ layout.comma, 0x20 ≤ c.val := by
  obtain ⟨gap, spaces, shape⟩ := plain.comma
  rw [shape]
  exact List.forall_mem_cons.mpr ⟨by decide, spaces.visible⟩

theorem Layout.IsPlain.visible_colon {layout : Layout} (plain : layout.IsPlain) :
    ∀ c ∈ layout.colon, 0x20 ≤ c.val := by
  obtain ⟨gap, spaces, shape⟩ := plain.colon
  rw [shape]
  exact List.forall_mem_cons.mpr ⟨by decide, spaces.visible⟩

/-! ### Tokens -/

/-- What is read at once is read however long it is. -/
theorem Spells.leaf {told : Option Value} {t : Text}
    (starts : ∃ c tail, t = c :: tail ∧ isSpace c = false ∧ c ≠ ']')
    (visible : ∀ c ∈ t, 0x20 ≤ c.val)
    (back : ∀ fuel rest, Closes rest →
      readValue (fuel + 1) (t ++ rest) = told.map fun value => (value, rest)) : Spells told t where
  starts := starts
  visible := visible
  back fuel rest enough closes := by
    cases fuel with
    | zero =>
      obtain ⟨c, tail, rfl, -⟩ := starts
      cases enough
    | succ fuel => exact back fuel rest closes

theorem spells_null : Spells (some .null) "null" := by
  refine .leaf ⟨_, _, rfl, by decide, by decide⟩ (by decide) fun fuel rest _ => ?_
  rw [readValue]
  rfl

theorem spells_bool (b : Bool) :
    Spells (some (.bool b)) (if b then "true" else "false" : Text) := by
  cases b with
  | false =>
    refine .leaf ⟨_, _, rfl, by decide, by decide⟩ (by decide) fun fuel rest _ => ?_
    rw [readValue]
    rfl
  | true =>
    refine .leaf ⟨_, _, rfl, by decide, by decide⟩ (by decide) fun fuel rest _ => ?_
    rw [readValue]
    rfl

theorem spells_text (t : Text) : Spells (some (.text t)) (quote t) := by
  have shape := quote_append t []
  rw [List.append_nil] at shape
  refine .leaf ⟨_, _, shape, by decide, by decide⟩ (visible_quote t) fun fuel rest _ => ?_
  have solid : isSpace (CodePoint.ofChar '"') = false := by decide
  rw [quote_append, readValue, skip_cons solid]
  simp only [if_true, readText_flatMap]
  rfl

/-- What starts like a whole number is read as a number. -/
theorem readValue_number {c : CodePoint} (low : 0x2D ≤ c.val) (high : c.val ≤ 0x39) (fuel : Nat)
    (rest : Text) : readValue (fuel + 1) (c :: rest) = readNumber (c :: rest) := by
  have solid : isSpace c = false := by
    unfold isSpace
    grind
  have other : ∀ d : CodePoint, d.val < 0x2D ∨ 0x39 < d.val → c ≠ d := by
    rintro d outside rfl
    omega
  have quotes := other (CodePoint.ofChar '"') (by decide)
  have brace := other (CodePoint.ofChar '\x7b') (by decide)
  have bracket := other (CodePoint.ofChar '[') (by decide)
  have null := other (CodePoint.ofChar 'n') (by decide)
  have yes := other (CodePoint.ofChar 't') (by decide)
  have no := other (CodePoint.ofChar 'f') (by decide)
  rw [readValue, skip_cons solid]
  simp only [if_neg quotes, if_neg brace, if_neg bracket, if_neg null, if_neg yes, if_neg no]

/-- A text that starts like a whole number spells the number that is read of it. -/
theorem Spells.number {value : Value} {t : Text}
    (starts : ∃ c tail, t = c :: tail ∧ 0x2D ≤ c.val ∧ c.val ≤ 0x39)
    (visible : ∀ c ∈ t, 0x20 ≤ c.val)
    (reads : ∀ rest, Closes rest → readNumber (t ++ rest) = some (value, rest)) :
    Spells (some value) t := by
  obtain ⟨c, tail, rfl, low, high⟩ := starts
  refine .leaf ⟨c, tail, rfl, ?_, ?_⟩ visible fun fuel rest closes => ?_
  · unfold isSpace
    grind
  · rintro rfl
    exact absurd high (by decide)
  · rw [List.cons_append, readValue_number low high]
    exact reads rest closes

theorem spells_int (i : Int) : Spells (some (.int i)) (Text.ofInt i) := by
  obtain ⟨c, tail, shape⟩ := List.exists_cons_of_ne_nil (ofInt_ne_nil i)
  have bounds := ofInt_bounds i
  refine .number ⟨c, tail, shape, bounds c (by simp [shape])⟩ (fun d member => ?_)
    fun rest closes => readNumber_ofInt i closes
  have within := bounds d member
  omega

/-- A finite float is read as a float. -/
theorem reread?_finite (negative : Bool) (units : Nat) :
    ∃ x, Value.reread? (.float (.finite negative units)) = some (.float x) ∧ ∀ rest, Closes rest →
      readNumber (writeFloat (.finite negative units) ++ rest) = some (.float x, rest) := by
  obtain ⟨x, reads⟩ := (isFloatText_toText (Binary64.shortest negative units)).reads
  have alone := reads [] closes_nil
  rw [List.append_nil] at alone
  refine ⟨x, ?_, reads⟩
  unfold Value.reread?
  exact congrArg (Option.map _) alone

theorem spells_float (x : Binary64) : Spells (Value.reread? (.float x)) (writeFloat x) := by
  cases x with
  | nan =>
    unfold Value.reread?
    refine .leaf ⟨_, _, rfl, by decide, by decide⟩ (by decide) fun fuel rest _ => ?_
    rw [readValue]
    rfl
  | infinite negative =>
    unfold Value.reread?
    cases negative with
    | false =>
      refine .leaf ⟨_, _, rfl, by decide, by decide⟩ (by decide) fun fuel rest _ => ?_
      rw [readValue]
      rfl
    | true =>
      refine .leaf ⟨_, _, rfl, by decide, by decide⟩ (by decide) fun fuel rest _ => ?_
      rw [readValue]
      rfl
  | finite negative units =>
    have written := isFloatText_toText (Binary64.shortest negative units)
    obtain ⟨x, told, reads⟩ := reread?_finite negative units
    rw [told]
    exact .number written.starts (fun c member => (written.plain c member).1) reads

/-- A float is read as a float, unless it is written as a word. -/
theorem reread?_float (x : Binary64) :
    (x.isFinite = true ∧ ∃ y, Value.reread? (.float x) = some (.float y)) ∨
      (x.isFinite = false ∧ Value.reread? (.float x) = none) := by
  cases x with
  | nan =>
    unfold Value.reread?
    exact .inr ⟨rfl, rfl⟩
  | infinite negative =>
    unfold Value.reread?
    cases negative with
    | false => exact .inr ⟨rfl, rfl⟩
    | true => exact .inr ⟨rfl, rfl⟩
  | finite negative units =>
    obtain ⟨y, told, -⟩ := reread?_finite negative units
    exact .inl ⟨rfl, y, told⟩

/-! ### Lists -/

variable {layout : Layout}

/-- After the first of several parts comes a comma, white space and the other parts. -/
theorem exists_join_comma (plain : layout.IsPlain) (first second : Text) (others : List Text) :
    ∃ gap, IsBlank gap ∧
      (∀ rest, Text.join layout.comma (first :: second :: others) ++ rest =
        first ++ CodePoint.ofChar ',' ::
          (gap ++ (Text.join layout.comma (second :: others) ++ rest))) ∧
      first.length + (Text.join layout.comma (second :: others)).length <
        (Text.join layout.comma (first :: second :: others)).length := by
  obtain ⟨gap, spaces, shape⟩ := plain.comma
  refine ⟨gap, spaces.blank, fun rest => ?_, ?_⟩
  · rw [Text.join_cons_cons, List.append_assoc, List.append_assoc, shape]
    rfl
  · rw [Text.join_cons_cons, List.length_append, List.length_append, shape, List.length_cons]
    omega

theorem between_append (opening closing : CodePoint) (t rest : Text) :
    [opening] ++ t ++ [closing] ++ rest = opening :: (t ++ closing :: rest) := by
  rw [List.append_assoc, List.append_assoc]
  rfl

theorem length_between (opening closing : CodePoint) (t : Text) :
    ([opening] ++ t ++ [closing]).length = 1 + t.length + 1 := by
  rw [List.length_append, List.length_append]
  rfl

theorem exists_of_mem_parts {α : Type} {relation : α → Text → Prop} {values : List α}
    {parts : List Text} (each : List.Forall₂ relation values parts) {part : Text}
    (listed : part ∈ parts) : ∃ value, relation value part := by
  induction each with
  | nil => cases listed
  | cons related each ih =>
    rcases List.mem_cons.mp listed with rfl | later
    · exact ⟨_, related⟩
    · exact ih later

/-- What stands between two marks, parts with commas between them, holds no control character. -/
theorem visible_between (plain : layout.IsPlain) {opening closing : Text} {parts : List Text}
    (first : ∀ c ∈ opening, 0x20 ≤ c.val) (last : ∀ c ∈ closing, 0x20 ≤ c.val)
    (each : ∀ part ∈ parts, ∀ c ∈ part, 0x20 ≤ c.val) :
    ∀ c ∈ opening ++ Text.join layout.comma parts ++ closing, 0x20 ≤ c.val := by
  refine List.forall_mem_append.mpr ⟨List.forall_mem_append.mpr ⟨first, ?_⟩, last⟩
  exact (Text.forall_mem_join_iff plain.visible_comma parts).mpr each

/-- A text of which the element of a list is read. -/
def SpellsElement (value : Value) (part : Text) : Prop :=
  Spells value.reread? part

/-- The elements of a list are read up to its closing bracket. -/
theorem readElements_join (plain : layout.IsPlain) {values : List Value} {parts : List Text}
    (each : List.Forall₂ SpellsElement values parts) (occupied : values ≠ []) (fuel : Nat)
    (rest : Text) (enough : (Text.join layout.comma parts).length < fuel) :
    readElements fuel (Text.join layout.comma parts ++ CodePoint.ofChar ']' :: rest) =
      (Value.rereadEach values).map fun told => (told, rest) := by
  induction each generalizing fuel with
  | nil => exact absurd rfl occupied
  | @cons value t values parts spells each ih =>
    obtain ⟨fuel, rfl⟩ : ∃ less, fuel = less + 1 := ⟨fuel - 1, by omega⟩
    unfold Value.rereadEach
    -- An element is followed by the bracket if it is the last one, else by a comma.
    cases each with
    | nil =>
      show readElements (fuel + 1) (t ++ CodePoint.ofChar ']' :: rest) = _
      rw [readElements, spells.back fuel _ (Nat.le_of_lt_succ enough)
        (closes_cons (.inr (.inl rfl)) rest)]
      unfold Value.rereadEach
      cases value.reread? with
      | none => rfl
      | some told => rfl
    | @cons second u later parts first others =>
      obtain ⟨gap, blank, shape, size⟩ := exists_join_comma plain t u parts
      have after := ih (List.cons_ne_nil _ _) fuel (by omega)
      rw [shape, readElements, spells.back fuel _ (by omega) (closes_cons (.inl rfl) _)]
      cases value.reread? with
      | none => rfl
      | some told =>
        show (readElements fuel _).bind _ = _
        rw [readElements_append blank, after]
        cases Value.rereadEach (second :: later) with
        | none => rfl
        | some others => rfl

/-- What follows the opening bracket of a list is read as its elements, unless it closes the
list. -/
theorem readValue_list {c : CodePoint} (solid : isSpace c = false) (more : c ≠ ']') (fuel : Nat)
    (rest : Text) :
    readValue (fuel + 1) (CodePoint.ofChar '[' :: c :: rest) =
      (readElements fuel (c :: rest)).map fun (values, left) => (.list values, left) := by
  have quotes : CodePoint.ofChar '[' ≠ CodePoint.ofChar '"' := by decide
  have brace : CodePoint.ofChar '[' ≠ CodePoint.ofChar '\x7b' := by decide
  rw [readValue, skip_cons (by decide)]
  simp only [if_neg quotes, if_neg brace, if_true, skip_cons solid, if_neg more]

theorem spells_list (plain : layout.IsPlain) {values : List Value} {parts : List Text}
    (each : List.Forall₂ SpellsElement values parts) :
    Spells ((Value.rereadEach values).map .list) ("[" ++ Text.join layout.comma parts ++ "]") where
  starts := ⟨_, _, rfl, by decide, by decide⟩
  visible := by
    refine visible_between plain (by decide) (by decide) fun part listed => ?_
    obtain ⟨value, spells⟩ := exists_of_mem_parts each listed
    exact spells.visible
  back fuel rest enough closes := by
    have shape : "[" ++ Text.join layout.comma parts ++ "]" ++ rest = _ :=
      between_append '[' ']' _ rest
    have size : ("[" ++ Text.join layout.comma parts ++ "]").length = _ := length_between '[' ']' _
    obtain ⟨fuel, rfl⟩ : ∃ less, fuel = less + 1 := ⟨fuel - 1, by omega⟩
    rw [shape]
    cases each with
    | nil =>
      unfold Value.rereadEach
      rw [readValue]
      rfl
    | @cons value t values parts spells each =>
      obtain ⟨c, tail, starts, solid, more⟩ := spells.starts
      have elements := readElements_join plain (.cons spells each) (List.cons_ne_nil _ _) fuel rest
        (by omega)
      rw [starts, Text.join_cons_head, List.cons_append] at elements ⊢
      rw [readValue_list solid more, elements, Option.map_map, Option.map_map]
      rfl

/-! ### Dictionaries -/

/-- A text of which an entry is read: the key and its value. -/
def SpellsEntry (layout : Layout) (entry : Value × Value) (part : Text) : Prop :=
  ∃ name content, keyText entry.1 = .ok name ∧ part = quote name ++ layout.colon ++ content ∧
    Spells entry.2.reread? content

theorem SpellsEntry.visible (plain : layout.IsPlain) {entry : Value × Value} {part : Text}
    (spells : SpellsEntry layout entry part) : ∀ c ∈ part, 0x20 ≤ c.val := by
  obtain ⟨name, content, -, rfl, spells⟩ := spells
  exact List.forall_mem_append.mpr
    ⟨List.forall_mem_append.mpr ⟨visible_quote name, plain.visible_colon⟩, spells.visible⟩

/-- An entry starts with its key; a colon, white space and its value come after it. -/
theorem exists_entry_append (plain : layout.IsPlain) (name content : Text) :
    ∃ gap, IsBlank gap ∧ ∀ rest, quote name ++ layout.colon ++ content ++ rest =
      CodePoint.ofChar '"' :: (name.flatMap escape ++
        CodePoint.ofChar '"' :: CodePoint.ofChar ':' :: (gap ++ (content ++ rest))) := by
  obtain ⟨gap, spaces, shape⟩ := plain.colon
  refine ⟨gap, spaces.blank, fun rest => ?_⟩
  rw [List.append_assoc, List.append_assoc, quote_append, shape]
  rfl

/-- An entry is read up to what follows it, and then either the dictionary ends or another entry
follows. -/
theorem readEntries_entry (plain : layout.IsPlain) {name content : Text} {told : Option Value}
    (spells : Spells told content) {fuel : Nat}
    (enough : (quote name ++ layout.colon ++ content).length ≤ fuel) {mark : CodePoint}
    (closes : mark = ',' ∨ mark = ']' ∨ mark = '\x7d') (rest : Text) :
    readEntries (fuel + 1) (quote name ++ layout.colon ++ content ++ mark :: rest) =
      told.bind fun value =>
        if mark = '\x7d' then some ([(.text name, value)], rest)
        else if mark = ',' then
          (readEntries fuel rest).map fun (pairs, left) => ((.text name, value) :: pairs, left)
        else none := by
  have solid : isSpace mark = false := by
    rcases closes with rfl | rfl | rfl
    · decide
    · decide
    · decide
  have fits : content.length ≤ fuel := by
    rw [List.length_append] at enough
    omega
  obtain ⟨gap, blank, shape⟩ := exists_entry_append plain name content
  rw [shape, readEntries, skip_cons (by decide)]
  simp only [if_true, readText_flatMap, Option.bind_eq_bind, Option.bind_some]
  rw [skip_cons (by decide)]
  simp only [if_true, readValue_append blank, spells.back fuel _ fits (closes_cons closes rest)]
  cases told with
  | none => rfl
  | some value =>
    rw [Option.map_some]
    simp only [Option.bind_some, skip_cons solid, Option.map_eq_bind]
    rfl

/-- The entries of a dictionary are read up to its closing brace. -/
theorem readEntries_join (plain : layout.IsPlain) {entries : Entries} {parts : List Text}
    (each : List.Forall₂ (SpellsEntry layout) entries parts) (occupied : entries ≠ [])
    (fuel : Nat) (rest : Text) (enough : (Text.join layout.comma parts).length < fuel) :
    readEntries fuel (Text.join layout.comma parts ++ CodePoint.ofChar '\x7d' :: rest) =
      (Value.rereadEntries entries).map fun pairs => (pairs, rest) := by
  induction each generalizing fuel with
  | nil => exact absurd rfl occupied
  | @cons entry part entries parts spells each ih =>
    obtain ⟨fuel, rfl⟩ : ∃ less, fuel = less + 1 := ⟨fuel - 1, by omega⟩
    obtain ⟨key, value⟩ := entry
    obtain ⟨name, content, named, rfl, spells⟩ := spells
    replace named : keyText key = .ok name := named
    replace spells : Spells value.reread? content := spells
    unfold Value.rereadEntries
    rw [named]
    cases each with
    | nil =>
      show readEntries (fuel + 1)
        (quote name ++ layout.colon ++ content ++ CodePoint.ofChar '\x7d' :: rest) = _
      rw [readEntries_entry plain spells (Nat.le_of_lt_succ enough) (.inr (.inr rfl))]
      unfold Value.rereadEntries
      cases value.reread? with
      | none => rfl
      | some told =>
        rw [Option.bind_some, if_pos rfl]
        rfl
    | @cons second u later parts first others =>
      obtain ⟨gap, blank, shape, size⟩ :=
        exists_join_comma plain (quote name ++ layout.colon ++ content) u parts
      have after := ih (List.cons_ne_nil _ _) fuel (by omega)
      rw [shape, readEntries_entry plain spells (by omega) (.inl rfl)]
      cases value.reread? with
      | none => rfl
      | some told =>
        rw [Option.bind_some, if_neg (by decide), if_pos rfl, readEntries_append blank, after]
        cases Value.rereadEntries (second :: later) with
        | none => rfl
        | some pairs => rfl

/-- What follows the opening brace of a dictionary is read as its entries, if it starts with a
key. -/
theorem readValue_dict (fuel : Nat) (rest : Text) :
    readValue (fuel + 1) (CodePoint.ofChar '\x7b' :: CodePoint.ofChar '"' :: rest) =
      (readEntries fuel (CodePoint.ofChar '"' :: rest)).map fun (pairs, left) =>
        (.dict (Value.entriesOf pairs), left) := by
  rw [readValue, skip_cons (by decide)]
  rfl

theorem spells_dict (plain : layout.IsPlain) {entries : Entries} {parts : List Text}
    (each : List.Forall₂ (SpellsEntry layout) entries parts) :
    Spells ((Value.rereadEntries entries).map fun pairs => .dict (Value.entriesOf pairs))
      ("\x7b" ++ Text.join layout.comma parts ++ "\x7d") where
  starts := ⟨_, _, rfl, by decide, by decide⟩
  visible := by
    refine visible_between plain (by decide) (by decide) fun part listed => ?_
    obtain ⟨entry, spells⟩ := exists_of_mem_parts each listed
    exact spells.visible plain
  back fuel rest enough closes := by
    have shape : "\x7b" ++ Text.join layout.comma parts ++ "\x7d" ++ rest = _ :=
      between_append '\x7b' '\x7d' _ rest
    have size : ("\x7b" ++ Text.join layout.comma parts ++ "\x7d").length = _ :=
      length_between '\x7b' '\x7d' _
    obtain ⟨fuel, rfl⟩ : ∃ less, fuel = less + 1 := ⟨fuel - 1, by omega⟩
    rw [shape]
    cases each with
    | nil =>
      unfold Value.rereadEntries
      rw [readValue]
      rfl
    | cons spells each =>
      have pairs := readEntries_join plain (.cons spells each) (List.cons_ne_nil _ _) fuel rest
        (by omega)
      obtain ⟨name, content, -, starts, -⟩ := spells
      obtain ⟨gap, -, shape⟩ := exists_entry_append plain name content
      have begins := shape []
      rw [List.append_nil, ← starts] at begins
      rw [begins, Text.join_cons_head, List.cons_append] at pairs ⊢
      rw [readValue_dict, pairs, Option.map_map, Option.map_map]
      rfl

/-! ### Writing -/

theorem writeInt_eq_ok {i : Int} {t : Text} (wrote : writeInt i = .ok t) : t = Text.ofInt i := by
  unfold writeInt Courier.writeInt at wrote
  split at wrote
  · rename_i short
    split at short
    · cases short
      cases wrote
      rfl
    · cases short
  · cases wrote

mutual

/-- **What JSON reads of a value** is read of the text that is written for it, whatever follows. -/
theorem write_spells (plain : layout.IsPlain) (value : Value) {t : Text}
    (wrote : write layout value = .ok t) : Spells value.reread? t := by
  unfold write at wrote
  cases value with
  | null =>
    cases wrote
    exact spells_null
  | bool b =>
    cases wrote
    exact spells_bool b
  | int i =>
    obtain rfl := writeInt_eq_ok wrote
    exact spells_int i
  | float x =>
    cases wrote
    exact spells_float x
  | text t =>
    cases wrote
    exact spells_text t
  | list elements =>
    obtain ⟨parts, wrote_parts, same⟩ := bind_eq_ok wrote
    cases same
    unfold Value.reread?
    exact spells_list plain (writeEach_spells plain elements wrote_parts)
  | tuple elements =>
    obtain ⟨parts, wrote_parts, same⟩ := bind_eq_ok wrote
    cases same
    unfold Value.reread?
    exact spells_list plain (writeEach_spells plain elements wrote_parts)
  | dict entries =>
    obtain ⟨parts, wrote_parts, same⟩ := bind_eq_ok wrote
    cases same
    unfold Value.reread?
    exact spells_dict plain (writeEntries_spells plain entries wrote_parts)
  | bytes b => cases wrote
  | set elements => cases wrote
  | object => cases wrote
  | cycle => cases wrote

theorem writeEach_spells (plain : layout.IsPlain) (values : List Value) {parts : List Text}
    (wrote : writeEach layout values = .ok parts) : List.Forall₂ SpellsElement values parts := by
  unfold writeEach at wrote
  cases values with
  | nil =>
    cases wrote
    exact .nil
  | cons value rest =>
    obtain ⟨first, wrote_first, wrote⟩ := bind_eq_ok wrote
    obtain ⟨others, wrote_rest, same⟩ := bind_eq_ok wrote
    cases same
    exact .cons (write_spells plain value wrote_first) (writeEach_spells plain rest wrote_rest)

theorem writeEntries_spells (plain : layout.IsPlain) (entries : List (Value × Value))
    {parts : List Text} (wrote : writeEntries layout entries = .ok parts) :
    List.Forall₂ (SpellsEntry layout) entries parts := by
  unfold writeEntries at wrote
  cases entries with
  | nil =>
    cases wrote
    exact .nil
  | cons entry rest =>
    obtain ⟨key, value⟩ := entry
    obtain ⟨name, named, wrote⟩ := bind_eq_ok wrote
    obtain ⟨content, wrote_value, wrote⟩ := bind_eq_ok wrote
    obtain ⟨others, wrote_rest, same⟩ := bind_eq_ok wrote
    cases same
    exact .cons ⟨name, content, named, rfl, write_spells plain value wrote_value⟩
      (writeEntries_spells plain rest wrote_rest)

end

mutual

/-- Of a value that is written something is read exactly if no float inside it is written as a
word. -/
theorem isSome_reread? (value : Value) {t : Text} (wrote : write layout value = .ok t) :
    value.reread?.isSome = value.isWordless := by
  unfold write at wrote
  cases value with
  | null =>
    unfold Value.reread? Value.isWordless
    rfl
  | bool b =>
    unfold Value.reread? Value.isWordless
    rfl
  | int i =>
    unfold Value.reread? Value.isWordless
    rfl
  | float x =>
    unfold Value.isWordless
    rcases reread?_float x with ⟨finite, y, told⟩ | ⟨word, untold⟩
    · rw [told, finite, Option.isSome_some]
    · rw [untold, word, Option.isSome_none]
  | text t =>
    unfold Value.reread? Value.isWordless
    rfl
  | list elements =>
    obtain ⟨parts, wrote, -⟩ := bind_eq_ok wrote
    unfold Value.reread? Value.isWordless
    rw [Option.isSome_map, isSome_rereadEach elements wrote]
  | tuple elements =>
    obtain ⟨parts, wrote, -⟩ := bind_eq_ok wrote
    unfold Value.reread? Value.isWordless
    rw [Option.isSome_map, isSome_rereadEach elements wrote]
  | dict entries =>
    obtain ⟨parts, wrote, -⟩ := bind_eq_ok wrote
    unfold Value.reread? Value.isWordless
    rw [Option.isSome_map, isSome_rereadEntries entries wrote]
  | bytes b => cases wrote
  | set elements => cases wrote
  | object => cases wrote
  | cycle => cases wrote

theorem isSome_rereadEach (values : List Value) {parts : List Text}
    (wrote : writeEach layout values = .ok parts) :
    (Value.rereadEach values).isSome = Value.areWordless values := by
  unfold writeEach at wrote
  cases values with
  | nil =>
    unfold Value.rereadEach Value.areWordless
    rfl
  | cons value rest =>
    obtain ⟨first, wrote_first, wrote⟩ := bind_eq_ok wrote
    obtain ⟨others, wrote_rest, -⟩ := bind_eq_ok wrote
    unfold Value.rereadEach Value.areWordless
    rw [← isSome_reread? value wrote_first, ← isSome_rereadEach rest wrote_rest]
    cases value.reread? with
    | none => rfl
    | some told =>
      cases Value.rereadEach rest with
      | none => rfl
      | some others => rfl

theorem isSome_rereadEntries (entries : List (Value × Value)) {parts : List Text}
    (wrote : writeEntries layout entries = .ok parts) :
    (Value.rereadEntries entries).isSome = Value.entriesAreWordless entries := by
  unfold writeEntries at wrote
  cases entries with
  | nil =>
    unfold Value.rereadEntries Value.entriesAreWordless
    rfl
  | cons entry rest =>
    obtain ⟨key, value⟩ := entry
    obtain ⟨name, named, wrote⟩ := bind_eq_ok wrote
    obtain ⟨content, wrote_value, wrote⟩ := bind_eq_ok wrote
    obtain ⟨others, wrote_rest, -⟩ := bind_eq_ok wrote
    unfold Value.rereadEntries Value.entriesAreWordless
    rw [named, ← isSome_reread? value wrote_value, ← isSome_rereadEntries rest wrote_rest]
    cases value.reread? with
    | none => rfl
    | some told =>
      cases Value.rereadEntries rest with
      | none => rfl
      | some pairs => rfl

end

/-- What is read inside other text is read of the text as a whole. -/
theorem read_of_spells {told : Option Value} {t : Text} (spells : Spells told t) :
    read t = told := by
  have back := spells.back (2 * t.length + 1) [] (by omega) closes_nil
  rw [List.append_nil] at back
  unfold read
  rw [back]
  cases told with
  | none => rfl
  | some value => rfl

/-! ### Keys -/

/-- The words that keys other than texts may become. -/
def keyWords : List Text :=
  ["null", "true", "false", "NaN", "Infinity"]

/-- A text that no key but itself becomes: none of these words, and nothing that starts like a
number. -/
structure IsName (name : Text) : Prop where
  other : name ∉ keyWords
  start : ∀ c ∈ name.head?, 0x39 < c.val

theorem keyText_eq_ok {key : Value} {name : Text} (wrote : keyText key = .ok name) :
    key = .text name ∨ name ∈ keyWords ∨ ∃ c ∈ name.head?, c.val ≤ 0x39 := by
  unfold keyText at wrote
  cases key with
  | text t =>
    cases wrote
    exact .inl rfl
  | null =>
    cases wrote
    exact .inr (.inl (by decide))
  | bool b =>
    cases wrote
    cases b with
    | false => exact .inr (.inl (by decide))
    | true => exact .inr (.inl (by decide))
  | int i =>
    obtain rfl := writeInt_eq_ok wrote
    obtain ⟨c, tail, shape⟩ := List.exists_cons_of_ne_nil (ofInt_ne_nil i)
    refine .inr (.inr ⟨c, congrArg List.head? shape, ?_⟩)
    exact (ofInt_bounds i c (by simp [shape])).2
  | float x =>
    cases wrote
    cases x with
    | nan => exact .inr (.inl (by decide))
    | infinite negative =>
      cases negative with
      | false => exact .inr (.inl (by decide))
      | true => exact .inr (.inr ⟨CodePoint.ofChar '-', rfl, by decide⟩)
    | finite negative units =>
      obtain ⟨c, tail, shape, -, high⟩ :=
        (isFloatText_toText (Binary64.shortest negative units)).starts
      exact .inr (.inr ⟨c, congrArg List.head? shape, high⟩)
  | bytes b => cases wrote
  | list elements => cases wrote
  | tuple elements => cases wrote
  | set elements => cases wrote
  | dict entries => cases wrote
  | object => cases wrote
  | cycle => cases wrote

theorem IsName.key {key : Value} {name : Text} (only : IsName name)
    (wrote : keyText key = .ok name) : key = .text name := by
  rcases keyText_eq_ok wrote with same | word | ⟨c, first, low⟩
  · exact same
  · exact absurd word only.other
  · exact absurd low (Nat.not_le.mpr (only.start c first))

/-- An entry and what is read of it. -/
def Rereads (entry pair : Value × Value) : Prop :=
  (∃ name, keyText entry.1 = .ok name ∧ pair.1 = .text name) ∧ entry.2.reread? = some pair.2

theorem rereads_of_rereadEntries {entries : Entries} {pairs : List (Value × Value)}
    (told : Value.rereadEntries entries = some pairs) : List.Forall₂ Rereads entries pairs := by
  induction entries generalizing pairs with
  | nil =>
    unfold Value.rereadEntries at told
    cases told
    exact .nil
  | cons entry rest ih =>
    obtain ⟨key, value⟩ := entry
    unfold Value.rereadEntries at told
    obtain ⟨name, named, told⟩ := Option.bind_eq_some_iff.mp told
    obtain ⟨first, told_first, told⟩ := Option.bind_eq_some_iff.mp told
    obtain ⟨others, told_rest, same⟩ := Option.bind_eq_some_iff.mp told
    cases same
    refine .cons ⟨⟨name, ?_, rfl⟩, told_first⟩ (ih told_rest)
    show keyText key = .ok name
    cases wrote : keyText key with
    | error fault =>
      rw [wrote] at named
      cases named
    | ok written =>
      rw [wrote] at named
      cases named
      rfl

theorem get?_of_rereads {entries : Entries} {pairs : List (Value × Value)}
    (each : List.Forall₂ Rereads entries pairs) {name : Text} (only : IsName name) :
    Value.get? (.text name) pairs = (Value.get? (.text name) entries).bind Value.reread? := by
  induction each with
  | nil => rfl
  | @cons entry pair entries pairs rereads each ih =>
    obtain ⟨key, value⟩ := entry
    obtain ⟨told_key, told⟩ := pair
    obtain ⟨⟨written, named, rfl⟩, rereads⟩ := rereads
    replace named : keyText key = .ok written := named
    rw [Value.get?_cons, Value.get?_cons, ih]
    by_cases asked : key.sameKey (.text name)
    · obtain rfl := Value.sameKey_text_iff.mp asked
      cases named
      rw [if_pos asked, if_pos asked, Option.bind_some, rereads]
    · have other : ¬ (Value.text written).sameKey (.text name) := by
        intro same
        obtain rfl := Value.text.inj (Value.sameKey_text_iff.mp same)
        exact asked (Value.sameKey_text_iff.mpr (only.key named))
      rw [if_neg asked, if_neg other]

/-- A name finds in what is read of a dictionary what is read of the value under it. -/
theorem get?_entriesOf_reread {entries : Entries} (distinct : Value.Distinct entries)
    {pairs : List (Value × Value)} (told : Value.rereadEntries entries = some pairs) {name : Text}
    (only : IsName name) :
    Value.get? (.text name) (Value.entriesOf pairs) =
      (Value.get? (.text name) entries).bind Value.reread? := by
  have each := List.rel_reverse (rereads_of_rereadEntries told)
  rw [Value.get?_entriesOf, get?_of_rereads each only, Value.get?_reverse name distinct]

/-- What is read is the value itself, or a float, a list or a dictionary. -/
theorem eq_of_reread? {value told : Value} (rereads : value.reread? = some told) :
    told = value ∨ (∃ x, told = .float x) ∨ (∃ elements, told = .list elements) ∨
      ∃ entries, told = .dict entries := by
  cases value with
  | null =>
    unfold Value.reread? at rereads
    exact .inl (Option.some.inj rereads).symm
  | bool b =>
    unfold Value.reread? at rereads
    exact .inl (Option.some.inj rereads).symm
  | int i =>
    unfold Value.reread? at rereads
    exact .inl (Option.some.inj rereads).symm
  | text t =>
    unfold Value.reread? at rereads
    exact .inl (Option.some.inj rereads).symm
  | float x =>
    rcases reread?_float x with ⟨-, y, told⟩ | ⟨-, untold⟩
    · exact .inr (.inl ⟨y, Option.some.inj (rereads.symm.trans told)⟩)
    · rw [untold] at rereads
      cases rereads
  | list elements =>
    unfold Value.reread? at rereads
    obtain ⟨others, -, same⟩ := Option.map_eq_some_iff.mp rereads
    exact .inr (.inr (.inl ⟨others, same.symm⟩))
  | tuple elements =>
    unfold Value.reread? at rereads
    obtain ⟨others, -, same⟩ := Option.map_eq_some_iff.mp rereads
    exact .inr (.inr (.inl ⟨others, same.symm⟩))
  | dict entries =>
    unfold Value.reread? at rereads
    obtain ⟨pairs, -, same⟩ := Option.map_eq_some_iff.mp rereads
    exact .inr (.inr (.inr ⟨_, same.symm⟩))
  | bytes b =>
    unfold Value.reread? at rereads
    cases rereads
  | set elements =>
    unfold Value.reread? at rereads
    cases rereads
  | object =>
    unfold Value.reread? at rereads
    cases rereads
  | cycle =>
    unfold Value.reread? at rereads
    cases rereads

theorem reread?_text (t : Text) : (Value.text t).reread? = some (.text t) := by
  unfold Value.reread?
  rfl

theorem reread?_int (i : Int) : (Value.int i).reread? = some (.int i) := by
  unfold Value.reread?
  rfl

/-- Only a text itself is read as the text. -/
theorem reread?_eq_text_iff {value : Value} {t : Text} :
    value.reread? = some (.text t) ↔ value = .text t := by
  refine ⟨fun rereads => ?_, fun same => same ▸ reread?_text t⟩
  rcases eq_of_reread? rereads with same | ⟨x, other⟩ | ⟨elements, other⟩ | ⟨entries, other⟩
  · exact same.symm
  · cases other
  · cases other
  · cases other

/-- Only a whole number itself is read as the number. -/
theorem reread?_eq_int_iff {value : Value} {i : Int} :
    value.reread? = some (.int i) ↔ value = .int i := by
  refine ⟨fun rereads => ?_, fun same => same ▸ reread?_int i⟩
  rcases eq_of_reread? rereads with same | ⟨x, other⟩ | ⟨elements, other⟩ | ⟨entries, other⟩
  · exact same.symm
  · cases other
  · cases other
  · cases other

end Json

end Courier
