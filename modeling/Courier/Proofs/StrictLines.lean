/-
**Header lines that are JSON.**

Floats that are infinite or no numbers have no JSON form, yet they are written, as words that are no
JSON. So the header lines of an envelope are lines of UTF-8 without a line feed inside, and each of
them is a JSON object exactly if its headers hold no such float at any depth; a float as a key does
no harm, since a key is written between quotation marks.

* `Value.HoldsWord`: a float inside the value is written as a word.
* `Envelope.isStrictLine_iff`: a header line is a JSON object exactly if its headers hold none.
* `Envelope.strict_unless_words`: so it is with all lines of an envelope that has bytes.
-/
import Courier.Proofs.Flaws
import Courier.Proofs.JsonAcceptance
namespace Courier

namespace Value

/-! ### Words for floats -/

/-- A float that is written as a word. -/
def IsWord : Value → Prop
  | float x => ¬ x.isFinite
  | _ => False

/-- A float inside the value is written as a word. -/
def HoldsWord (value : Value) : Prop :=
  ∃ part, Inside part value ∧ part.IsWord

/-- A value that consists of nothing holds a word exactly if it is one itself. -/
theorem holdsWord_single {value : Value} (single : value.children = []) :
    value.HoldsWord ↔ value.IsWord := by
  unfold HoldsWord
  rw [exists_inside_iff, single]
  simp

theorem holdsWord_list {elements : List Value} :
    (list elements).HoldsWord ↔ ∃ element ∈ elements, element.HoldsWord := by
  unfold HoldsWord
  rw [exists_inside_iff]
  simp [IsWord, children]

theorem holdsWord_tuple {elements : List Value} :
    (tuple elements).HoldsWord ↔ ∃ element ∈ elements, element.HoldsWord := by
  unfold HoldsWord
  rw [exists_inside_iff]
  simp [IsWord, children]

theorem holdsWord_dict {entries : Entries} :
    (dict entries).HoldsWord ↔ ∃ entry ∈ entries, entry.2.HoldsWord := by
  unfold HoldsWord
  rw [exists_inside_iff]
  simp only [IsWord, children, false_or, List.mem_map, exists_exists_and_eq_and]

mutual

/-- Whether a value that has a form holds a word can be computed. -/
theorem isWordless_iff (value : Value) (sound : ¬ value.IsFlawed) :
    value.isWordless ↔ ¬ value.HoldsWord := by
  cases value with
  | list elements =>
    rw [isFlawed_list] at sound
    push Not at sound
    rw [holdsWord_list, isWordless, areWordless_iff elements sound]
    simp
  | tuple elements =>
    rw [isFlawed_tuple] at sound
    push Not at sound
    rw [holdsWord_tuple, isWordless, areWordless_iff elements sound]
    simp
  | dict entries =>
    rw [isFlawed_dict] at sound
    push Not at sound
    rw [holdsWord_dict, isWordless, entriesAreWordless_iff entries fun entry listed =>
      (sound entry listed).2]
    simp
  | float x =>
    rw [holdsWord_single rfl, isWordless]
    exact not_not.symm
  | set elements => exact absurd ⟨_, .here, .inl trivial⟩ sound
  | null | bool b | int i | text t | bytes b | object | cycle =>
    rw [holdsWord_single rfl, isWordless]
    · exact iff_of_true rfl nofun
    all_goals exact nofun

theorem areWordless_iff (values : List Value) (sound : ∀ value ∈ values, ¬ value.IsFlawed) :
    areWordless values ↔ ∀ value ∈ values, ¬ value.HoldsWord := by
  cases values with
  | nil => exact iff_of_true rfl nofun
  | cons value rest =>
    obtain ⟨first, others⟩ := List.forall_mem_cons.mp sound
    rw [List.forall_mem_cons, ← isWordless_iff value first, ← areWordless_iff rest others,
      areWordless, Bool.and_eq_true]

theorem entriesAreWordless_iff (entries : List (Value × Value))
    (sound : ∀ entry ∈ entries, ¬ entry.2.IsFlawed) :
    entriesAreWordless entries ↔ ∀ entry ∈ entries, ¬ entry.2.HoldsWord := by
  cases entries with
  | nil => exact iff_of_true rfl nofun
  | cons entry rest =>
    obtain ⟨first, others⟩ := List.forall_mem_cons.mp sound
    rw [List.forall_mem_cons, ← isWordless_iff entry.2 first, ← entriesAreWordless_iff rest others,
      entriesAreWordless, Bool.and_eq_true]

end

end Value

namespace Envelope

/-! ### Lines -/

/-- A line is the UTF-8 form of a JSON object. -/
def IsStrictLine (line : Bytes) : Prop :=
  ∃ t, Utf8.encode t = .ok line ∧ Json.IsObject t

variable {entries : Entries} {line : Bytes}

theorem readLine_isSome_iff {t : Text} (encoded : Utf8.encode t = .ok line) :
    (readLine line).isSome ↔ Json.IsObject t := by
  unfold readLine
  rw [Utf8.decode?_encode encoded, Option.bind_some, ← Json.read_dict_iff]
  split
  · rename_i entries reads
    exact iff_of_true rfl ⟨entries, reads⟩
  · rename_i other
    exact iff_of_false nofun fun ⟨entries, reads⟩ => other entries reads

/-- A header line is a JSON object exactly if its headers hold no float that is written as a
word. -/
theorem isStrictLine_iff (wrote : lineBytes entries = .ok line) :
    IsStrictLine line ↔ ¬ (Value.dict entries).HoldsWord := by
  obtain ⟨t, -, encoded⟩ := lineBytes_eq_ok.mp wrote
  have sound : ¬ (Value.dict entries).IsFlawed := isOk_lineBytes_iff.mp ⟨line, wrote⟩
  have computed := isSome_readLine wrote
  rw [← Value.isWordless_iff _ sound, Value.isWordless, ← computed]
  constructor
  · rintro ⟨_, encoded, object⟩
    exact (readLine_isSome_iff encoded).mpr object
  · intro told
    exact ⟨t, encoded, (readLine_isSome_iff encoded).mp told⟩

/-- How a line of headers is written. -/
structure IsLine (line : Bytes) (entries : Entries) : Prop where
  /-- It is one line. -/
  single : lineFeed ∉ line
  /-- It is UTF-8. -/
  encoded : ∃ t, Utf8.encode t = .ok line
  /-- It is a JSON object exactly if the headers hold no float that is written as a word. -/
  strict : IsStrictLine line ↔ ¬ (Value.dict entries).HoldsWord

theorem isLine_of_lineBytes (wrote : lineBytes entries = .ok line) : IsLine line entries where
  single := (readLine_of_lineBytes wrote).1
  encoded := by
    obtain ⟨t, -, encoded⟩ := lineBytes_eq_ok.mp wrote
    exact ⟨t, encoded⟩
  strict := isStrictLine_iff wrote

/-! ### Envelopes -/

/-- The headers of each line: those of the envelope, and those of each item with its type and the
length of its payload. -/
def lineHeaders (envelope : Envelope) : List Entries :=
  envelope.headers :: envelope.items.map itemEntries

theorem forall_isStrictLine_iff {headers : List Entries} {lines : List Bytes}
    (each : List.Forall₂ IsLine lines headers) :
    (∀ line ∈ lines, IsStrictLine line) ↔
      ∀ entries ∈ headers, ¬ (Value.dict entries).HoldsWord := by
  induction each with
  | nil => exact iff_of_true nofun nofun
  | cons line each ih => rw [List.forall_mem_cons, List.forall_mem_cons, line.strict, ih]

/-- What the header lines of an envelope are. -/
structure WritesLines (envelope : Envelope) : Prop where
  /-- It has bytes exactly if it is not flawed. -/
  written : (∃ bytes, envelope.toBytes = .ok bytes) ↔ ¬ envelope.IsFlawed
  /-- The bytes are the header lines with the payloads behind them, and all lines are JSON objects
  exactly if no headers hold a float that is written as a word. -/
  lines : ∀ bytes, envelope.toBytes = .ok bytes → ∃ head lines,
    bytes = head ++ lineFeed :: (List.zipWith frame lines envelope.items).flatten ∧
    List.Forall₂ IsLine (head :: lines) envelope.lineHeaders ∧
    ((∀ line ∈ head :: lines, IsStrictLine line) ↔
      ∀ entries ∈ envelope.lineHeaders, ¬ (Value.dict entries).HoldsWord)
  /-- Where it has none, the refusal names it, if it has a name. -/
  refused : ∀ error, envelope.toBytes = .error error →
    (∃ cause name, envelope.id = .ok name ∧ error = .unserializable cause name) ∨
      ∃ fault, envelope.id = .error fault ∧ error = .unnameable fault

/-- **Header lines are JSON unless they hold a word for a float.** Every envelope that has a form in
JSON is written, but so is one with floats that have none, and then the lines with these are no
JSON. -/
theorem strict_unless_words (envelope : Envelope) : envelope.WritesLines where
  written := envelope.isOk_toBytes_iff_not_flawed
  lines bytes wrote := by
    obtain ⟨head, others, wrote_head, wrote_items, rfl⟩ :=
      linesBytes_eq_ok.mp (toBytes_eq_ok.mp wrote)
    obtain ⟨lines, rfl, each⟩ := lines_of_itemsBytes wrote_items
    have all : List.Forall₂ IsLine (head :: lines) envelope.lineHeaders :=
      .cons (isLine_of_lineBytes wrote_head)
        (List.forall₂_map_right_iff.mpr (each.imp fun _ _ => isLine_of_lineBytes))
    exact ⟨head, lines, rfl, all, forall_isStrictLine_iff all⟩
  refused error refused := by
    unfold toBytes at refused
    split at refused
    · cases refused
    · cases named : envelope.id with
      | ok name =>
        rw [named] at refused
        exact .inl ⟨_, name, rfl, (Except.error.inj refused).symm⟩
      | error fault =>
        rw [named] at refused
        exact .inr ⟨fault, rfl, (Except.error.inj refused).symm⟩

/-- A header is no number. -/
def unmeasured : Envelope :=
  ⟨[(.text "event_id", .text "a"), (.text "x", .float .nan)], []⟩

/-- It is written, and its only line is no JSON. -/
theorem unmeasured_written :
    ∃ line, unmeasured.toBytes = .ok (line ++ [lineFeed]) ∧ ¬ IsStrictLine line := by
  obtain ⟨line, wrote⟩ : ∃ line, lineBytes unmeasured.headers = .ok line :=
    isOk_lineBytes_iff.mpr ((Json.write_iff _).mp ⟨_, rfl, rfl⟩)
  refine ⟨line, ?_, ?_⟩
  · refine toBytes_eq_ok.mpr (linesBytes_eq_ok.mpr ⟨line, [], wrote, rfl, rfl⟩)
  · rw [isStrictLine_iff wrote, not_not]
    exact ⟨.float .nan, .within (.tail _ (.head _)) .here, nofun⟩

end Envelope

end Courier
