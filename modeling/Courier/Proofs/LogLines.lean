/-
**Log lines that cannot be forged.**

Whatever texts a record holds, its line of JSON is one line: every control character in them is
escaped, so none of them ends the line or the text that it stands in. What is read of the line is
each field with its text, as it was.

* `Json.exists_line_of_texts`: a dictionary of texts is written on one line and read back.
* `Log.Format.line_tells`: so is what a log record tells.
-/
import Courier.Log.Format
import Courier.Proofs.JsonAcceptance
namespace Courier

namespace Json

/-! ### Dictionaries of texts -/

/-- Entries with texts for keys and values. -/
def textEntries (pairs : List (Text × Text)) : Entries :=
  pairs.map fun (name, content) => (.text name, .text content)

theorem distinct_textEntries {pairs : List (Text × Text)} (distinct : (pairs.map Prod.fst).Nodup) :
    Value.Distinct (textEntries pairs) := by
  refine List.pairwise_map.mpr ((List.pairwise_map.mp distinct).imp ?_)
  rintro ⟨first, _⟩ ⟨second, _⟩ other
  refine Bool.eq_false_iff.mpr fun same => other ?_
  exact Value.text.inj (Value.sameKey_text_iff.mp same)

theorem exists_writeEntries (layout : Layout) (pairs : List (Text × Text)) :
    ∃ parts, writeEntries layout (textEntries pairs) = .ok parts := by
  induction pairs with
  | nil => exact ⟨[], rfl⟩
  | cons pair rest ih =>
    obtain ⟨parts, wrote⟩ := ih
    refine ⟨(quote pair.1 ++ layout.colon ++ quote pair.2) :: parts, ?_⟩
    show (do
      let name ← keyText (.text pair.1)
      let content ← write layout (.text pair.2)
      let others ← writeEntries layout (textEntries rest)
      return (quote name ++ layout.colon ++ content) :: others) = _
    rw [wrote, write]
    rfl

theorem rereadEntries_textEntries (pairs : List (Text × Text)) :
    Value.rereadEntries (textEntries pairs) = some (textEntries pairs) := by
  induction pairs with
  | nil => rfl
  | cons pair rest ih =>
    show Value.rereadEntries ((.text pair.1, .text pair.2) :: textEntries rest) = _
    rw [Value.rereadEntries, ih, reread?_text]
    rfl

/-- A dictionary of texts with different keys is written on one line, as a JSON object, and is read
back as it was. -/
theorem exists_line_of_texts {layout : Layout} (plain : layout.IsPlain)
    {pairs : List (Text × Text)} (distinct : (pairs.map Prod.fst).Nodup) :
    ∃ line, write layout (.dict (textEntries pairs)) = .ok line ∧
      (∀ c ∈ line, 0x20 ≤ c.val) ∧ IsObject line ∧
      read line = some (.dict (textEntries pairs)) := by
  obtain ⟨parts, each⟩ := exists_writeEntries layout pairs
  obtain ⟨line, wrote⟩ : ∃ line, write layout (.dict (textEntries pairs)) = .ok line := by
    rw [write, each]
    exact ⟨_, rfl⟩
  have spells := write_spells plain _ wrote
  have back : read line = some (.dict (textEntries pairs)) := by
    rw [read_of_spells spells, Value.reread?, rereadEntries_textEntries, Option.map_some,
      Value.entriesOf_of_distinct (distinct_textEntries distinct)]
  exact ⟨line, wrote, spells.visible, (read_dict_iff line).mp ⟨_, back⟩, back⟩

end Json

namespace Log.Format

/-! ### Log records -/

/-- The texts of a line under their names, in order. -/
def named (wall : Int) (level logger message : Text) (exception id : Option Text) :
    List (Text × Text) :=
  let always : List (Text × Text) :=
    [("timestamp", (Moment.ofMicroseconds wall).isoText), ("level", level), ("logger", logger),
      ("message", message)]
  always ++ (exception.map fun text => (("exception" : Text), text)).toList ++
    (id.map fun text => (("envelope_id" : Text), text)).toList

theorem nodup_named (wall : Int) (level logger message : Text) (exception id : Option Text) :
    ((named wall level logger message exception id).map Prod.fst).Nodup := by
  cases exception with
  | none =>
    cases id with
    | none =>
      show (["timestamp", "level", "logger", "message"] : List Text).Nodup
      decide
    | some id =>
      show (["timestamp", "level", "logger", "message", "envelope_id"] : List Text).Nodup
      decide
  | some exception =>
    cases id with
    | none =>
      show (["timestamp", "level", "logger", "message", "exception"] : List Text).Nodup
      decide
    | some id =>
      show (["timestamp", "level", "logger", "message", "exception", "envelope_id"] :
        List Text).Nodup
      decide

theorem entries_eq_named (wall : Int) (level logger message : Text) (exception id : Option Text) :
    ((Fields.mk level logger message exception (id.map .text)).entries wall).map
        (fun (name, value) => (Value.text name, value)) =
      Json.textEntries (named wall level logger message exception id) := by
  cases exception <;> cases id <;> rfl

/-- The line of a record, and what is read of it. -/
structure IsLine (wall : Int) (level logger message : Text) (exception id : Option Text)
    (line : Text) : Prop where
  /-- It is the line of these fields. -/
  wrote : (Fields.mk level logger message exception (id.map .text)).line wall = .ok line
  /-- It is the line of every record that has them. -/
  formats : ∀ record : Record, record.text = .ok message →
    fields message record = ⟨level, logger, message, exception, id.map .text⟩ →
      json wall record = .ok line
  /-- No line feed or other control character stands in it. -/
  single : ∀ c ∈ line, 0x20 ≤ c.val
  /-- It is a JSON object. -/
  object : Json.IsObject line
  /-- What is read of it is each text under its name, in order. -/
  told : Json.read line =
    some (.dict (Json.textEntries (named wall level logger message exception id)))

/-- **A log record is one line that tells its texts**, whatever they hold. -/
theorem line_tells (wall : Int) (level logger message : Text) (exception id : Option Text) :
    ∃ line, IsLine wall level logger message exception id line := by
  obtain ⟨line, wrote, single, object, told⟩ :=
    Json.exists_line_of_texts Json.spaced_isPlain
      (nodup_named wall level logger message exception id)
  rw [← entries_eq_named] at wrote
  refine ⟨line, wrote, ?_, single, object, told⟩
  intro record text same
  unfold json
  rw [text]
  simp only [same]
  show ((Fields.mk level logger message exception (id.map .text)).line wall).mapError _ = _
  unfold Fields.line
  rw [wrote]
  rfl

end Log.Format

end Courier
