/-
**What the wire tells of an item.**

The bytes of an envelope are a line of headers and then, for each item, a line of headers and the
payload. No line of headers holds a line feed. The line of an item tells the type and the length
that the item's own headers give, if they give any; only where they give none does it tell the
item's own type and the length of its payload. A line that holds a float written as a word tells
nothing.

* `Envelope.readLine_of_lineBytes`: what is read of a line of headers.
* `Envelope.get?_itemEntries`: own headers named type or length replace those of the item.
* `Envelope.wire_tells`: what is read of each line, and when it is true.
-/
import Courier.Envelope.Reading
import Courier.Proofs.JsonReading
namespace Courier

namespace Envelope

/-! ### Lines -/

theorem lineFeed_ne_byte {n : Nat} (small : n < 256) (other : n ≠ 0x0A) : lineFeed ≠ byte n := by
  intro same
  have value := congrArg UInt8.toNat same
  simp only [byte, lineFeed, UInt8.toNat_ofNat'] at value
  omega

/-- No character but the line feed has its byte. -/
theorem lineFeed_notMem_utf8 {c : CodePoint} (visible : 0x20 ≤ c.val) : lineFeed ∉ c.utf8 := by
  have bound := c.val_lt
  unfold CodePoint.utf8
  simp only
  split
  · rw [List.mem_singleton]
    exact lineFeed_ne_byte (by omega) (by omega)
  split
  · simp only [List.mem_cons, List.not_mem_nil, or_false, not_or]
    exact ⟨lineFeed_ne_byte (by omega) (by omega), lineFeed_ne_byte (by omega) (by omega)⟩
  split
  · simp only [List.mem_cons, List.not_mem_nil, or_false, not_or]
    exact ⟨lineFeed_ne_byte (by omega) (by omega), lineFeed_ne_byte (by omega) (by omega),
      lineFeed_ne_byte (by omega) (by omega)⟩
  · simp only [List.mem_cons, List.not_mem_nil, or_false, not_or]
    exact ⟨lineFeed_ne_byte (by omega) (by omega), lineFeed_ne_byte (by omega) (by omega),
      lineFeed_ne_byte (by omega) (by omega), lineFeed_ne_byte (by omega) (by omega)⟩

variable {entries : Entries} {bytes : Bytes}

theorem lineBytes_eq_ok :
    lineBytes entries = .ok bytes ↔
      ∃ line, Json.write Json.compact (.dict entries) = .ok line ∧
        Utf8.encode line = .ok bytes := by
  unfold lineBytes
  cases Json.write Json.compact (.dict entries) with
  | error fault => simp
  | ok line =>
    cases encoded : Utf8.encode line with
    | error fault => simp [encoded]
    | ok bytes => simp [encoded]

/-- Headers are written on one line, and read of it is what JSON reads of them. -/
theorem readLine_of_lineBytes (wrote : lineBytes entries = .ok bytes) :
    lineFeed ∉ bytes ∧
      readLine bytes = (Value.rereadEntries entries).map Value.entriesOf := by
  obtain ⟨line, written, encoded⟩ := lineBytes_eq_ok.mp wrote
  have spells := Json.write_spells Json.compact_isPlain _ written
  constructor
  · rw [(Utf8.encode_eq_ok_iff.mp encoded).2]
    intro member
    obtain ⟨c, listed, inside⟩ := List.mem_flatMap.mp member
    exact lineFeed_notMem_utf8 (spells.visible c listed) inside
  · unfold readLine
    rw [Utf8.decode?_encode encoded, Option.bind_some, Json.read_of_spells spells]
    unfold Value.reread?
    cases Value.rereadEntries entries with
    | none => rfl
    | some pairs => rfl

/-- A line of headers is a JSON object exactly if no float is written on it as a word. -/
theorem isSome_readLine (wrote : lineBytes entries = .ok bytes) :
    (readLine bytes).isSome = Value.entriesAreWordless entries := by
  obtain ⟨line, written, -⟩ := lineBytes_eq_ok.mp wrote
  have read := Json.isSome_reread? _ written
  unfold Value.reread? Value.isWordless at read
  rw [(readLine_of_lineBytes wrote).2, Option.isSome_map, ← read, Option.isSome_map]

/-! ### Items -/

variable {item : Item}

theorem itemBytes_eq_ok :
    itemBytes item = .ok bytes ↔ ∃ line, lineBytes (itemEntries item) = .ok line ∧
      line ++ lineFeed :: item.payload ++ [lineFeed] = bytes := by
  unfold itemBytes
  cases lineBytes (itemEntries item) with
  | error fault => simp [Except.map]
  | ok line => simp [Except.map]

theorem itemsBytes_cons_eq_ok {rest : List Item} :
    itemsBytes (item :: rest) = .ok bytes ↔ ∃ first others, itemBytes item = .ok first ∧
      itemsBytes rest = .ok others ∧ first ++ others = bytes := by
  rw [itemsBytes]
  constructor
  · intro wrote
    obtain ⟨first, wrote_first, wrote⟩ := bind_eq_ok wrote
    obtain ⟨others, wrote_rest, same⟩ := bind_eq_ok wrote
    exact ⟨first, others, wrote_first, wrote_rest, Except.ok.inj same⟩
  · rintro ⟨first, others, wrote_first, wrote_rest, rfl⟩
    rw [wrote_first, wrote_rest]
    rfl

/-- An item has bytes exactly if its line has. -/
theorem isOk_itemBytes_iff : (∃ bytes, itemBytes item = .ok bytes) ↔
    ∃ line, lineBytes (itemEntries item) = .ok line := by
  simp only [itemBytes_eq_ok]
  constructor
  · rintro ⟨bytes, line, wrote, -⟩
    exact ⟨line, wrote⟩
  · rintro ⟨line, wrote⟩
    exact ⟨_, line, wrote, rfl⟩

theorem isOk_itemsBytes_iff {items : List Item} : (∃ bytes, itemsBytes items = .ok bytes) ↔
    ∀ item ∈ items, ∃ line, lineBytes (itemEntries item) = .ok line := by
  induction items with
  | nil => exact ⟨nofun, fun _ => ⟨[], rfl⟩⟩
  | cons item rest ih =>
    rw [List.forall_mem_cons, ← isOk_itemBytes_iff, ← ih]
    simp only [itemsBytes_cons_eq_ok]
    constructor
    · rintro ⟨bytes, start, later, wrote, wrote_rest, -⟩
      exact ⟨⟨start, wrote⟩, later, wrote_rest⟩
    · rintro ⟨⟨start, wrote⟩, later, wrote_rest⟩
      exact ⟨_, start, later, wrote, wrote_rest, rfl⟩

/-- The type that an item's line tells: that of its own headers, if they have one. -/
def toldKind (item : Item) : Value :=
  (Value.get? typeHeader (Value.entriesOf item.headers)).getD (.text item.kind)

/-- The length that an item's line tells: that of its own headers, if they have one. -/
def toldLength (item : Item) : Value :=
  (Value.get? lengthHeader (Value.entriesOf item.headers)).getD (.int item.payload.length)

/-- Own headers replace the type and the length of the item. -/
theorem get?_itemEntries (item : Item) :
    Value.get? typeHeader (itemEntries item) = some (toldKind item) ∧
      Value.get? lengthHeader (itemEntries item) = some (toldLength item) := by
  have kind : Value.get? typeHeader (Value.entriesOf [(typeHeader, .text item.kind),
      (lengthHeader, .int item.payload.length)]) = some (.text item.kind) := rfl
  have length : Value.get? lengthHeader (Value.entriesOf [(typeHeader, .text item.kind),
      (lengthHeader, .int item.payload.length)]) = some (.int item.payload.length) := rfl
  have shape := fun name => Value.get?_entriesOf_append name
    [(typeHeader, .text item.kind), (lengthHeader, .int item.payload.length)] item.headers
  constructor
  · exact (shape "type").trans ((congrArg _ kind).trans Option.or_some)
  · exact (shape "length").trans ((congrArg _ length).trans Option.or_some)

theorem isName_type : Json.IsName "type" where
  other := by decide
  start := by decide

theorem isName_length : Json.IsName "length" where
  other := by decide
  start := by decide

/-- What a line tells of the item whose payload follows it. -/
structure Tells (line : Bytes) (item : Item) : Prop where
  /-- It is one line. -/
  single : lineFeed ∉ line
  /-- It is a JSON object exactly if no float is written on it as a word. -/
  decodes : (readLine line).isSome = Value.entriesAreWordless (itemEntries item)
  /-- The object has the type and the length that the item's own headers give, if they give any. -/
  told : ∀ entries, readLine line = some entries →
    Value.get? typeHeader entries = (toldKind item).reread? ∧
      Value.get? lengthHeader entries = (toldLength item).reread?
  /-- It tells the truth exactly if they give none, or just these, and no float is a word. -/
  truthful :
    (∃ entries, readLine line = some entries ∧
      Value.get? typeHeader entries = some (.text item.kind) ∧
      Value.get? lengthHeader entries = some (.int item.payload.length)) ↔
    Value.entriesAreWordless (itemEntries item) ∧ toldKind item = .text item.kind ∧
      toldLength item = .int item.payload.length

theorem tells_of_lineBytes {line : Bytes} (wrote : lineBytes (itemEntries item) = .ok line) :
    Tells line item := by
  obtain ⟨single, back⟩ := readLine_of_lineBytes wrote
  have decodes := isSome_readLine wrote
  have told : ∀ entries, readLine line = some entries →
      Value.get? typeHeader entries = (toldKind item).reread? ∧
        Value.get? lengthHeader entries = (toldLength item).reread? := by
    intro entries read
    obtain ⟨pairs, told, rfl⟩ := Option.map_eq_some_iff.mp (back.symm.trans read)
    have distinct : Value.Distinct (itemEntries item) := Value.distinct_entriesOf _
    have kind := Json.get?_entriesOf_reread distinct told isName_type
    have length := Json.get?_entriesOf_reread distinct told isName_length
    obtain ⟨found_kind, found_length⟩ := get?_itemEntries item
    exact ⟨kind.trans (congrArg (Option.bind · Value.reread?) found_kind),
      length.trans (congrArg (Option.bind · Value.reread?) found_length)⟩
  refine ⟨single, decodes, told, ?_⟩
  constructor
  · rintro ⟨entries, read, kind, length⟩
    obtain ⟨told_kind, told_length⟩ := told entries read
    rw [read] at decodes
    exact ⟨decodes.symm, Json.reread?_eq_text_iff.mp (told_kind.symm.trans kind),
      Json.reread?_eq_int_iff.mp (told_length.symm.trans length)⟩
  · rintro ⟨wordless, kind, length⟩
    rw [← decodes] at wordless
    obtain ⟨entries, read⟩ := Option.isSome_iff_exists.mp wordless
    obtain ⟨told_kind, told_length⟩ := told entries read
    exact ⟨entries, read, told_kind.trans (Json.reread?_eq_text_iff.mpr kind),
      told_length.trans (Json.reread?_eq_int_iff.mpr length)⟩

/-! ### Envelopes -/

variable {envelope : Envelope}

theorem linesBytes_eq_ok :
    envelope.linesBytes = .ok bytes ↔ ∃ head items, lineBytes envelope.headers = .ok head ∧
      itemsBytes envelope.items = .ok items ∧ head ++ lineFeed :: items = bytes := by
  unfold linesBytes
  constructor
  · intro wrote
    obtain ⟨head, wrote_head, wrote⟩ := bind_eq_ok wrote
    obtain ⟨items, wrote_items, same⟩ := bind_eq_ok wrote
    exact ⟨head, items, wrote_head, wrote_items, Except.ok.inj same⟩
  · rintro ⟨head, items, wrote_head, wrote_items, rfl⟩
    rw [wrote_head, wrote_items]
    rfl

/-- An envelope has bytes exactly if each of its lines has. -/
theorem isOk_toBytes_iff : (∃ bytes, envelope.toBytes = .ok bytes) ↔
    (∃ line, lineBytes envelope.headers = .ok line) ∧
      ∀ item ∈ envelope.items, ∃ line, lineBytes (itemEntries item) = .ok line := by
  rw [← isOk_itemsBytes_iff]
  simp only [toBytes_eq_ok, linesBytes_eq_ok]
  constructor
  · rintro ⟨bytes, head, others, wrote, wrote_items, -⟩
    exact ⟨⟨head, wrote⟩, others, wrote_items⟩
  · rintro ⟨⟨head, wrote⟩, others, wrote_items⟩
    exact ⟨_, head, others, wrote, wrote_items, rfl⟩

/-- A line and the payload of its item, each with its line feed. -/
def frame (line : Bytes) (item : Item) : Bytes :=
  line ++ lineFeed :: item.payload ++ [lineFeed]

/-- The bytes of several items are their header lines, each with its payload behind it. -/
theorem lines_of_itemsBytes {items : List Item} (wrote : itemsBytes items = .ok bytes) :
    ∃ lines, bytes = (List.zipWith frame lines items).flatten ∧
      List.Forall₂ (fun line item => lineBytes (itemEntries item) = .ok line) lines items := by
  induction items generalizing bytes with
  | nil =>
    cases wrote
    exact ⟨[], rfl, .nil⟩
  | cons item rest ih =>
    obtain ⟨first, others, wrote_first, wrote_rest, rfl⟩ := itemsBytes_cons_eq_ok.mp wrote
    obtain ⟨line, written, rfl⟩ := itemBytes_eq_ok.mp wrote_first
    obtain ⟨lines, rfl, each⟩ := ih wrote_rest
    exact ⟨line :: lines, rfl, .cons written each⟩

theorem frames_of_itemsBytes {items : List Item} (wrote : itemsBytes items = .ok bytes) :
    ∃ lines, bytes = (List.zipWith frame lines items).flatten ∧
      List.Forall₂ Tells lines items := by
  obtain ⟨lines, shape, each⟩ := lines_of_itemsBytes wrote
  exact ⟨lines, shape, each.imp fun _ _ => tells_of_lineBytes⟩

/-- **What the wire tells of each item.** The bytes of an envelope are a line of headers and then,
for each item, a line that tells of the item, and its payload. Own headers of the item that are
named type or length are told in place of its type and of the length of its payload. -/
theorem wire_tells (wrote : envelope.toBytes = .ok bytes) :
    ∃ head lines, lineFeed ∉ head ∧
      bytes = head ++ lineFeed :: (List.zipWith frame lines envelope.items).flatten ∧
      List.Forall₂ Tells lines envelope.items := by
  obtain ⟨head, others, wrote_head, wrote_items, rfl⟩ :=
    linesBytes_eq_ok.mp (toBytes_eq_ok.mp wrote)
  obtain ⟨lines, rfl, each⟩ := frames_of_itemsBytes wrote_items
  exact ⟨head, lines, (readLine_of_lineBytes wrote_head).1, rfl, each⟩

/-- An item whose own headers name a type and a length. -/
def misleading : Item :=
  ⟨"event", [byte 0x68, byte 0x69], [(typeHeader, .text "log"), (lengthHeader, .int 99)]⟩

/-- An envelope with this item alone. -/
def misled : Envelope :=
  ⟨[(.text "event_id", .text "a")], [misleading]⟩

theorem misled_wrote : ∃ bytes, misled.toBytes = .ok bytes := by
  have written : misled.toBytes.isOk := by decide +kernel
  cases wrote : misled.toBytes with
  | ok bytes => exact ⟨bytes, rfl⟩
  | error fault =>
    rw [wrote] at written
    cases written

theorem misled_tells :
    ∃ bytes head lines, misled.toBytes = .ok bytes ∧ lineFeed ∉ head ∧
      bytes = head ++ lineFeed :: (List.zipWith frame lines misled.items).flatten ∧
      List.Forall₂ Tells lines misled.items := by
  obtain ⟨bytes, wrote⟩ := misled_wrote
  obtain ⟨head, lines, single, shape, each⟩ := wire_tells wrote
  exact ⟨bytes, head, lines, wrote, single, shape, each⟩

/-- The line of an event of two bytes tells of a log of ninety-nine. -/
theorem misled_line :
    ∃ head line, misled.toBytes = .ok (head ++ lineFeed :: frame line misleading) ∧
      lineFeed ∉ head ∧ lineFeed ∉ line ∧
      readLine line = some [(typeHeader, .text "log"), (lengthHeader, .int 99)] ∧
      misleading.kind = ("event" : Text) ∧ misleading.payload.length = 2 := by
  obtain ⟨bytes, wrote⟩ := misled_wrote
  obtain ⟨head, others, wrote_head, wrote_items, rfl⟩ :=
    linesBytes_eq_ok.mp (toBytes_eq_ok.mp wrote)
  obtain ⟨first, last, wrote_first, wrote_last, rfl⟩ := itemsBytes_cons_eq_ok.mp wrote_items
  obtain ⟨line, written, rfl⟩ := itemBytes_eq_ok.mp wrote_first
  cases wrote_last
  rw [List.append_nil] at wrote
  obtain ⟨single, back⟩ := readLine_of_lineBytes written
  refine ⟨head, line, wrote, (readLine_of_lineBytes wrote_head).1, single, ?_, rfl, rfl⟩
  rw [back]
  rfl

end Envelope

end Courier
