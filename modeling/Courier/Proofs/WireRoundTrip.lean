/-
**The wire form is read back.**

An envelope whose headers JSON carries is read back from its bytes, to the last of them, whatever
its payloads are. A payload may look like a line of headers, since its length is read first, and no
line of headers holds a line feed. Only a surrogate keeps such an envelope from having bytes.

* `Envelope.readLine_of_carried`: a line of headers is read back.
* `Envelope.readItem_of_itemBytes`: an item is read back, and nothing after it is.
* `Envelope.wire_round_trip`: an envelope is read back.
-/
import Courier.Proofs.JsonRoundTrip
import Courier.Proofs.WireReading
namespace Courier

/-- JSON carries the headers of the item, which name neither type nor length, and the length of its
payload. -/
def Item.isCarried (item : Item) : Bool :=
  item.payload.length < tenTo digitLimit && Value.entriesAreCarried item.headers &&
    item.headers.all fun entry =>
      !(entry.1.sameKey Envelope.typeHeader || entry.1.sameKey Envelope.lengthHeader)

/-- No text in the item has a surrogate. -/
def Item.isScalar (item : Item) : Bool :=
  item.kind.isScalar && Value.entriesAreScalar item.headers

namespace Envelope

/-- JSON carries all headers of the envelope. -/
def isCarried (envelope : Envelope) : Bool :=
  Value.entriesAreCarried envelope.headers && envelope.items.all Item.isCarried

/-- No text in the envelope has a surrogate. -/
def isScalar (envelope : Envelope) : Bool :=
  Value.entriesAreScalar envelope.headers && envelope.items.all Item.isScalar

/-! ### Lines -/

variable {entries : Entries} {bytes : Bytes}

/-- Headers that JSON carries have bytes exactly if no text in them has a surrogate. -/
theorem lineBytes_isOk_iff (carried : Value.entriesAreCarried entries) :
    (∃ bytes, lineBytes entries = .ok bytes) ↔ Value.entriesAreScalar entries := by
  have whole : (Value.dict entries).isCarried := by
    unfold Value.isCarried
    exact carried
  obtain ⟨line, wrote, same⟩ := Json.write_carried _ whole
  have scalar : (∀ c ∈ line, c.isSurrogate = false) ↔ Value.entriesAreScalar entries := by
    unfold Value.isScalar at same
    rw [← same]
    unfold Text.isScalar
    simp
  rw [← scalar, ← Utf8.encode_isOk_iff]
  simp only [lineBytes_eq_ok, wrote, Except.ok.injEq, exists_eq_left']

/-- Headers that JSON carries are read back from their line. -/
theorem readLine_of_carried (carried : Value.entriesAreCarried entries)
    (wrote : lineBytes entries = .ok bytes) : readLine bytes = some entries := by
  have distinct := Value.distinct_of_entriesAreCarried carried
  rw [(readLine_of_lineBytes wrote).2, Json.rereadEntries_of_carried entries carried,
    Option.map_some, Value.entriesOf_of_distinct distinct]

/-! ### Items -/

variable {item : Item}

/-- The entries on the header line of an item, type and length first. -/
def lineEntries (item : Item) : Entries :=
  (typeHeader, .text item.kind) :: (lengthHeader, .int item.payload.length) :: item.headers

theorem entriesAreCarried_lineEntries (carried : item.isCarried) :
    Value.entriesAreCarried (lineEntries item) := by
  unfold Item.isCarried at carried
  simp only [Bool.and_eq_true, List.all_eq_true, Bool.not_eq_true', Bool.or_eq_false_iff] at carried
  obtain ⟨⟨short, headers⟩, free⟩ := carried
  have type : ∀ entry ∈ item.headers, typeHeader.sameKey entry.1 = false := by
    intro entry member
    exact (Value.sameKey_text _ _).trans (free entry member).1
  have length : ∀ entry ∈ item.headers, lengthHeader.sameKey entry.1 = false := by
    intro entry member
    exact (Value.sameKey_text _ _).trans (free entry member).2
  have kind : (Value.text item.kind).isCarried := by
    unfold Value.isCarried
    rfl
  have size : (Value.int item.payload.length).isCarried := by
    unfold Value.isCarried
    exact short
  unfold lineEntries Value.entriesAreCarried Value.entriesAreCarried
  simp only [Bool.and_eq_true, List.all_eq_true, Bool.not_eq_true']
  refine ⟨⟨⟨rfl, kind⟩, fun entry member => ?_⟩, ⟨⟨rfl, size⟩, length⟩, headers⟩
  rcases List.mem_cons.mp member with rfl | own
  · exact (by decide : typeHeader.sameKey lengthHeader = false)
  · exact type entry own

theorem itemEntries_of_carried (carried : item.isCarried) : itemEntries item = lineEntries item :=
  Value.entriesOf_of_distinct
    (Value.distinct_of_entriesAreCarried (entriesAreCarried_lineEntries carried))

theorem entriesAreScalar_lineEntries (item : Item) :
    Value.entriesAreScalar (lineEntries item) = item.isScalar := by
  have type : typeHeader.isScalar = true := Value.isScalar_text _
  have length : lengthHeader.isScalar = true := Value.isScalar_text _
  unfold lineEntries Value.entriesAreScalar Value.entriesAreScalar
  rw [type, length, Value.isScalar_text, Value.isScalar_int]
  rfl

theorem get?_lineEntries (item : Item) :
    Value.get? typeHeader (lineEntries item) = some (.text item.kind) ∧
      Value.get? lengthHeader (lineEntries item) = some (.int item.payload.length) :=
  ⟨rfl, rfl⟩

theorem ownHeaders_lineEntries (carried : item.isCarried) :
    ownHeaders (lineEntries item) = item.headers := by
  unfold Item.isCarried at carried
  have free := List.filter_eq_self.mpr (List.all_eq_true.mp (Bool.and_eq_true_iff.mp carried).2)
  exact free

/-- An item that JSON carries has a line exactly if no text in it has a surrogate. -/
theorem lineBytes_itemEntries_isOk_iff (carried : item.isCarried) :
    (∃ line, lineBytes (itemEntries item) = .ok line) ↔ item.isScalar := by
  rw [itemEntries_of_carried carried, lineBytes_isOk_iff (entriesAreCarried_lineEntries carried),
    entriesAreScalar_lineEntries]

/-- An item that JSON carries is read back from its bytes, and nothing after it is read. -/
theorem readItem_of_itemBytes (carried : item.isCarried) (wrote : itemBytes item = .ok bytes)
    (rest : Bytes) : readItem (bytes ++ rest) = some (item, rest) := by
  obtain ⟨line, written, rfl⟩ := itemBytes_eq_ok.mp wrote
  rw [itemEntries_of_carried carried] at written
  have single := (readLine_of_lineBytes written).1
  have back := readLine_of_carried (entriesAreCarried_lineEntries carried) written
  have shape : line ++ lineFeed :: item.payload ++ [lineFeed] ++ rest =
      line ++ lineFeed :: (item.payload ++ lineFeed :: rest) := by simp
  unfold readItem
  rw [shape, splitLine_append single]
  have enough : (decide ((item.payload.length : Int) < 0) ||
      decide ((item.payload ++ lineFeed :: rest).length < item.payload.length)) = false := by
    simp
  simp only [Option.bind_eq_bind, Option.bind_some, back, (get?_lineEntries item).1,
    (get?_lineEntries item).2, Int.toNat_natCast, enough, List.drop_left, List.take_left,
    ownHeaders_lineEntries carried, if_true]
  rfl

theorem itemBytes_ne_nil (wrote : itemBytes item = .ok bytes) : bytes ≠ [] := by
  obtain ⟨line, -, rfl⟩ := itemBytes_eq_ok.mp wrote
  simp

/-- Items that JSON carries are read back from their bytes. -/
theorem readItems_of_itemsBytes {items : List Item} (carried : ∀ item ∈ items, item.isCarried)
    (wrote : itemsBytes items = .ok bytes) (fuel : Nat) (enough : bytes.length ≤ fuel) :
    readItems fuel bytes = some items := by
  induction items generalizing bytes fuel with
  | nil =>
    cases wrote
    cases fuel with
    | zero => rfl
    | succ fuel => rfl
  | cons item rest ih =>
    obtain ⟨own, others⟩ := List.forall_mem_cons.mp carried
    obtain ⟨first, later, wrote_first, wrote_rest, rfl⟩ := itemsBytes_cons_eq_ok.mp wrote
    -- An item has at least one byte, so the fuel left is enough for the other items.
    have some := List.length_pos_iff.mpr (itemBytes_ne_nil wrote_first)
    rw [List.length_append] at enough
    obtain ⟨fuel, rfl⟩ : ∃ less, fuel = less + 1 := ⟨fuel - 1, by omega⟩
    have occupied : (first ++ later).isEmpty = false := by
      simp [itemBytes_ne_nil wrote_first]
    unfold readItems
    rw [occupied, readItem_of_itemBytes own wrote_first]
    show (readItems fuel later).map (item :: ·) = _
    rw [ih others wrote_rest fuel (by omega)]
    rfl

/-! ### Envelopes -/

variable {envelope : Envelope}

theorem headers_of_isCarried (carried : envelope.isCarried) :
    Value.entriesAreCarried envelope.headers ∧ ∀ item ∈ envelope.items, item.isCarried := by
  obtain ⟨headers, items⟩ := Bool.and_eq_true_iff.mp carried
  exact ⟨headers, List.all_eq_true.mp items⟩

/-- An envelope that JSON carries has bytes exactly if no text in it has a surrogate. -/
theorem toBytes_isOk_iff (carried : envelope.isCarried) :
    (∃ bytes, envelope.toBytes = .ok bytes) ↔ envelope.isScalar := by
  obtain ⟨headers, items⟩ := headers_of_isCarried carried
  unfold isScalar
  rw [isOk_toBytes_iff, lineBytes_isOk_iff headers, Bool.and_eq_true_iff, List.all_eq_true]
  exact and_congr_right' (forall₂_congr fun item listed =>
    lineBytes_itemEntries_isOk_iff (items item listed))

/-- An envelope that JSON carries is read back from its bytes, to the last of them. -/
theorem ofBytes?_of_toBytes (carried : envelope.isCarried) (wrote : envelope.toBytes = .ok bytes) :
    ofBytes? bytes = some envelope := by
  obtain ⟨headers, items⟩ := headers_of_isCarried carried
  obtain ⟨head, others, wrote_head, wrote_items, rfl⟩ :=
    linesBytes_eq_ok.mp (toBytes_eq_ok.mp wrote)
  have single := (readLine_of_lineBytes wrote_head).1
  have back := readLine_of_carried headers wrote_head
  unfold ofBytes?
  rw [splitLine_append single]
  simp only [Option.bind_eq_bind, Option.bind_some, back,
    readItems_of_itemsBytes items wrote_items others.length (Nat.le_refl _)]
  rfl

/-- **The wire form is read back.** An envelope whose headers JSON carries, and in which no text has
a surrogate, has bytes; from these the same envelope is read, and no other such envelope has the
same bytes. With a surrogate anywhere it has no bytes at all. -/
theorem wire_round_trip (carried : envelope.isCarried) :
    (envelope.isScalar → ∃ bytes, envelope.toBytes = .ok bytes ∧ ofBytes? bytes = some envelope ∧
      ∀ other : Envelope, other.isCarried → other.toBytes = .ok bytes → other = envelope) ∧
    (envelope.isScalar = false → ∃ fault, envelope.toBytes = .error fault) := by
  constructor
  · intro scalar
    obtain ⟨bytes, wrote⟩ := (toBytes_isOk_iff carried).mpr scalar
    have back := ofBytes?_of_toBytes carried wrote
    refine ⟨bytes, wrote, back, fun other carried_other same => ?_⟩
    have back_other := ofBytes?_of_toBytes carried_other same
    exact Option.some.inj (back_other.symm.trans back)
  · intro broken
    cases wrote : envelope.toBytes with
    | error fault => exact ⟨fault, rfl⟩
    | ok bytes =>
      have scalar := (toBytes_isOk_iff carried).mp ⟨bytes, wrote⟩
      rw [broken] at scalar
      cases scalar

/-- An envelope with a nested header and a payload that looks like further lines. -/
def lookalike : Envelope :=
  ⟨[(.text "event_id", .text "a\"b\nc"),
      (.text "sdk", .dict [(.text "langs", .list [.null, .int (-7)]), (.text "née", .bool true)])],
    [⟨"log", [byte 0x0A, byte 0x7B, byte 0x7D, byte 0x0A], [(.text "n", .list [])]⟩,
      ⟨"event", [], []⟩]⟩

theorem lookalike_round_trip :
    lookalike.isCarried ∧ ∃ bytes, lookalike.toBytes = .ok bytes ∧
      ofBytes? bytes = some lookalike := by
  have carried : lookalike.isCarried := by decide +kernel
  have scalar : lookalike.isScalar := by decide +kernel
  obtain ⟨bytes, wrote, back, -⟩ := (wire_round_trip carried).1 scalar
  exact ⟨carried, bytes, wrote, back⟩

end Envelope

end Courier
