/-
**What JSON in UTF-8 lacks.**

Bytes, sets, objects without content, whole numbers with too many digits and texts with a surrogate
have no form, and neither has a dictionary with a key other than a text, a number, a boolean or
null. A list that contains itself has none either: the place where it comes back to itself, however
deep, is `Value.cycle`. A value that has one of these inside it, at any depth, cannot be written;
every other value is. So an envelope is refused exactly for such a flaw in one of its lines, and the
refusal names the envelope; type and length of an item that are replaced by its own headers are no
part of its line.

* `Value.Inside`, `Value.IsFlawed`: what is inside a value, and what must not be.
* `Json.write_iff`: a value is written exactly if it is not flawed.
* `Envelope.serialized_unless_flawed`: the same for the lines of an envelope.
-/
import Courier.Proofs.JsonRoundTrip
import Courier.Proofs.WireReading
namespace Courier

namespace Value

/-! ### Flaws -/

/-- What a value consists of; the keys of a dictionary are told apart. -/
def children : Value → List Value
  | list elements | tuple elements | set elements => elements
  | dict entries => entries.map Prod.snd
  | null | bool _ | int _ | float _ | text _ | bytes _ | object | cycle => []

/-- The keys of a dictionary. -/
def keys : Value → List Value
  | dict entries => entries.map Prod.fst
  | _ => []

/-- A value is inside another one, at any depth; it may be that value itself. -/
inductive Inside (part : Value) : Value → Prop
  | here : Inside part part
  | within {whole child : Value} (listed : child ∈ whole.children) (inside : Inside part child) :
    Inside part whole

/-- The value has no form, whatever it consists of. -/
def IsFormless : Value → Prop
  | int i => digitLimit < digitCount i.natAbs
  | text t => ∃ c ∈ t, c.isSurrogate
  | bytes _ | set _ | object | cycle => True
  | null | bool _ | float _ | list _ | tuple _ | dict _ => False

/-- The value has no form as a key. -/
def IsFormlessKey : Value → Prop
  | int i => digitLimit < digitCount i.natAbs
  | text t => ∃ c ∈ t, c.isSurrogate
  | null | bool _ | float _ => False
  | bytes _ | list _ | tuple _ | set _ | dict _ | object | cycle => True

/-- Something inside the value has no form, or is a dictionary with such a key. -/
def IsFlawed (value : Value) : Prop :=
  ∃ part, Inside part value ∧ (part.IsFormless ∨ ∃ key ∈ part.keys, key.IsFormlessKey)

theorem inside_iff {part whole : Value} :
    Inside part whole ↔ part = whole ∨ ∃ child ∈ whole.children, Inside part child := by
  constructor
  · intro inside
    cases inside with
    | here => exact .inl rfl
    | within listed inside => exact .inr ⟨_, listed, inside⟩
  · rintro (rfl | ⟨child, listed, inside⟩)
    · exact .here
    · exact .within listed inside

/-- Something inside a value is the value itself, or is inside something that it consists of. -/
theorem exists_inside_iff {p : Value → Prop} {value : Value} :
    (∃ part, Inside part value ∧ p part) ↔
      p value ∨ ∃ child ∈ value.children, ∃ part, Inside part child ∧ p part := by
  constructor
  · rintro ⟨part, inside, holds⟩
    obtain rfl | ⟨child, listed, inside⟩ := inside_iff.mp inside
    · exact .inl holds
    · exact .inr ⟨child, listed, part, inside, holds⟩
  · rintro (holds | ⟨child, listed, part, inside, holds⟩)
    · exact ⟨value, .here, holds⟩
    · exact ⟨part, .within listed inside, holds⟩

/-- A value is flawed by itself, or by something that it consists of. -/
theorem isFlawed_iff (value : Value) : value.IsFlawed ↔
    (value.IsFormless ∨ ∃ key ∈ value.keys, key.IsFormlessKey) ∨
      ∃ child ∈ value.children, child.IsFlawed :=
  exists_inside_iff

theorem isFlawed_list {elements : List Value} :
    (list elements).IsFlawed ↔ ∃ element ∈ elements, element.IsFlawed := by
  rw [isFlawed_iff]
  simp [IsFormless, keys, children]

theorem isFlawed_tuple {elements : List Value} :
    (tuple elements).IsFlawed ↔ ∃ element ∈ elements, element.IsFlawed := by
  rw [isFlawed_iff]
  simp [IsFormless, keys, children]

theorem isFlawed_dict {entries : Entries} : (dict entries).IsFlawed ↔
    ∃ entry ∈ entries, entry.1.IsFormlessKey ∨ entry.2.IsFlawed := by
  rw [isFlawed_iff]
  simp only [IsFormless, keys, children, false_or, List.mem_map, exists_exists_and_eq_and,
    ← exists_or, ← and_or_left]

/-- A value that consists of nothing is flawed exactly if it has no form itself. -/
theorem isFlawed_single {value : Value} (bare : value.keys = []) (single : value.children = []) :
    value.IsFlawed ↔ value.IsFormless := by
  rw [isFlawed_iff, bare, single]
  simp

end Value

namespace Json

open Value

/-! ### Writing -/

theorem lt_digitCount_iff {n limit : Nat} (some : 0 < limit) :
    limit < digitCount n ↔ tenTo limit ≤ n := by
  have short : digitCount n ≤ limit ↔ n < 10 ^ limit :=
    Nat.length_toDigits_le_iff (by decide) some
  rw [← Nat.not_le, short, Nat.not_lt]
  rfl

/-- A whole number is written exactly if it has not too many digits. -/
theorem writeInt_iff (i : Int) :
    (∃ t, writeInt i = .ok t ∧ t.isScalar) ↔ ¬ digitLimit < digitCount i.natAbs := by
  rw [lt_digitCount_iff (by decide)]
  unfold writeInt Courier.writeInt
  by_cases short : i.natAbs < tenTo digitLimit
  · rw [if_pos short]
    exact iff_of_true ⟨_, rfl, isScalar_ofInt i⟩ (Nat.not_le.mpr short)
  · rw [if_neg short]
    exact iff_of_false nofun (not_not.mpr (Nat.not_lt.mp short))

theorem isScalar_iff {t : Text} : t.isScalar ↔ ¬ ∃ c ∈ t, c.isSurrogate := by
  unfold Text.isScalar
  simp

theorem isScalar_writeFloat (x : Binary64) : (writeFloat x).isScalar := by
  cases x with
  | nan => rfl
  | infinite negative => cases negative <;> rfl
  | finite negative units =>
    refine isScalar_iff.mpr ?_
    rintro ⟨c, member, surrogate⟩
    have plain := (isFloatText_toText (Binary64.shortest negative units)).plain c member
    unfold CodePoint.isSurrogate at surrogate
    simp only [Bool.and_eq_true, decide_eq_true_eq] at surrogate
    omega

/-- A key is written exactly if it has a form as a key. -/
theorem keyText_iff (key : Value) :
    (∃ t, keyText key = .ok t ∧ t.isScalar) ↔ ¬ key.IsFormlessKey := by
  cases key with
  | null => exact iff_of_true ⟨_, rfl, rfl⟩ nofun
  | bool b => cases b <;> exact iff_of_true ⟨_, rfl, rfl⟩ nofun
  | float x => exact iff_of_true ⟨_, rfl, isScalar_writeFloat x⟩ nofun
  | int i => exact writeInt_iff i
  | text t =>
    unfold keyText IsFormlessKey
    rw [← isScalar_iff]
    exact ⟨fun ⟨_, same, scalar⟩ => Except.ok.inj same ▸ scalar, fun scalar => ⟨_, rfl, scalar⟩⟩
  | bytes b => exact iff_of_false nofun (not_not.mpr trivial)
  | list elements => exact iff_of_false nofun (not_not.mpr trivial)
  | tuple elements => exact iff_of_false nofun (not_not.mpr trivial)
  | set elements => exact iff_of_false nofun (not_not.mpr trivial)
  | dict entries => exact iff_of_false nofun (not_not.mpr trivial)
  | object => exact iff_of_false nofun (not_not.mpr trivial)
  | cycle => exact iff_of_false nofun (not_not.mpr trivial)

/-- What stands between two marks is written exactly if its parts are. -/
theorem between_iff {ε : Type} {parts : Except ε (List Text)} {opening closing : Text}
    (first : opening.isScalar) (last : closing.isScalar) :
    (∃ t, (do let parts ← parts; return opening ++ Text.join compact.comma parts ++ closing) =
        (.ok t : Except ε Text) ∧ t.isScalar) ↔
      ∃ written, parts = .ok written ∧ written.all Text.isScalar := by
  constructor
  · rintro ⟨t, wrote, scalar⟩
    obtain ⟨written, each, same⟩ := bind_eq_ok wrote
    rw [← Except.ok.inj same] at scalar
    exact ⟨written, each, (isScalar_between first last written).symm.trans scalar⟩
  · rintro ⟨written, rfl, scalar⟩
    exact ⟨_, rfl, (isScalar_between first last written).trans scalar⟩

mutual

/-- **A value is written**, as a text without surrogates, exactly if it is not flawed. -/
theorem write_iff (value : Value) :
    (∃ t, write compact value = .ok t ∧ t.isScalar) ↔ ¬ value.IsFlawed := by
  cases value with
  | list elements =>
    rw [isFlawed_list, write, between_iff rfl rfl, writeEach_iff elements]
    simp
  | tuple elements =>
    rw [isFlawed_tuple, write, between_iff rfl rfl, writeEach_iff elements]
    simp
  | dict entries =>
    rw [isFlawed_dict, write, between_iff rfl rfl, writeEntries_iff entries]
    simp
  | null =>
    rw [isFlawed_single rfl rfl]
    exact iff_of_true ⟨_, rfl, rfl⟩ nofun
  | bool b =>
    rw [isFlawed_single rfl rfl]
    cases b <;> exact iff_of_true ⟨_, rfl, rfl⟩ nofun
  | int i =>
    rw [isFlawed_single rfl rfl, write]
    exact writeInt_iff i
  | float x =>
    rw [isFlawed_single rfl rfl]
    exact iff_of_true ⟨_, rfl, isScalar_writeFloat x⟩ nofun
  | text t =>
    rw [isFlawed_single rfl rfl, write]
    unfold IsFormless
    rw [← isScalar_iff, ← isScalar_quote t]
    exact ⟨fun ⟨_, same, scalar⟩ => Except.ok.inj same ▸ scalar, fun scalar => ⟨_, rfl, scalar⟩⟩
  | bytes b => exact iff_of_false nofun (not_not.mpr ⟨_, .here, .inl trivial⟩)
  | set elements => exact iff_of_false nofun (not_not.mpr ⟨_, .here, .inl trivial⟩)
  | object => exact iff_of_false nofun (not_not.mpr ⟨_, .here, .inl trivial⟩)
  | cycle => exact iff_of_false nofun (not_not.mpr ⟨_, .here, .inl trivial⟩)

theorem writeEach_iff (values : List Value) :
    (∃ parts, writeEach compact values = .ok parts ∧ parts.all Text.isScalar) ↔
      ∀ value ∈ values, ¬ value.IsFlawed := by
  cases values with
  | nil => exact iff_of_true ⟨[], rfl, rfl⟩ nofun
  | cons value rest =>
    rw [List.forall_mem_cons, ← write_iff value, ← writeEach_iff rest, writeEach]
    constructor
    · rintro ⟨parts, wrote, scalar⟩
      obtain ⟨first, here, wrote⟩ := bind_eq_ok wrote
      obtain ⟨others, later, same⟩ := bind_eq_ok wrote
      cases same
      obtain ⟨scalar, scalars⟩ := Bool.and_eq_true_iff.mp scalar
      exact ⟨⟨first, here, scalar⟩, others, later, scalars⟩
    · rintro ⟨⟨first, here, scalar⟩, others, later, scalars⟩
      rw [here, later]
      exact ⟨_, rfl, Bool.and_eq_true_iff.mpr ⟨scalar, scalars⟩⟩

theorem writeEntries_iff (entries : List (Value × Value)) :
    (∃ parts, writeEntries compact entries = .ok parts ∧ parts.all Text.isScalar) ↔
      ∀ entry ∈ entries, ¬ (entry.1.IsFormlessKey ∨ entry.2.IsFlawed) := by
  cases entries with
  | nil => exact iff_of_true ⟨[], rfl, rfl⟩ nofun
  | cons entry rest =>
    obtain ⟨key, value⟩ := entry
    have colon : compact.colon.isScalar = true := rfl
    have part : ∀ name content : Text, (quote name ++ compact.colon ++ content).isScalar =
        (name.isScalar && content.isScalar) := by
      intro name content
      rw [Text.isScalar_append, Text.isScalar_append, isScalar_quote, colon, Bool.and_true]
    rw [List.forall_mem_cons, not_or, ← keyText_iff key, ← write_iff value,
      ← writeEntries_iff rest, writeEntries]
    constructor
    · rintro ⟨parts, wrote, scalar⟩
      obtain ⟨name, named, wrote⟩ := bind_eq_ok wrote
      obtain ⟨content, here, wrote⟩ := bind_eq_ok wrote
      obtain ⟨others, later, same⟩ := bind_eq_ok wrote
      cases same
      rw [List.all_cons, part] at scalar
      simp only [Bool.and_eq_true] at scalar
      exact ⟨⟨⟨name, named, scalar.1.1⟩, content, here, scalar.1.2⟩, others, later, scalar.2⟩
    · rintro ⟨⟨⟨name, named, scalar_name⟩, content, here, scalar⟩, others, later, scalars⟩
      rw [named, here, later]
      refine ⟨_, rfl, ?_⟩
      rw [List.all_cons, part, scalar_name, scalar, scalars]
      rfl

end

end Json

namespace Envelope

/-! ### Envelopes -/

/-- A line of headers is written exactly if they are not flawed. -/
theorem isOk_lineBytes_iff {entries : Entries} :
    (∃ line, lineBytes entries = .ok line) ↔ ¬ (Value.dict entries).IsFlawed := by
  rw [← Json.write_iff]
  simp only [lineBytes_eq_ok, exists_comm (α := Bytes), exists_and_left, Utf8.encode_isOk_iff]
  unfold Text.isScalar
  simp

/-- A line of the envelope is flawed: the one with its headers, or that of an item, which has its
type and the length of its payload where its own headers do not replace them. -/
def IsFlawed (envelope : Envelope) : Prop :=
  (Value.dict envelope.headers).IsFlawed ∨
    ∃ item ∈ envelope.items, (Value.dict (itemEntries item)).IsFlawed

/-- How an envelope is turned into bytes. -/
structure Serializes (envelope : Envelope) : Prop where
  /-- It has bytes exactly if it is not flawed. -/
  written : (∃ bytes, envelope.toBytes = .ok bytes) ↔ ¬ envelope.IsFlawed
  /-- It is refused exactly if it is flawed, and the refusal names it. -/
  refused : ∀ name, envelope.id = .ok name →
    ((∃ cause, envelope.toBytes = .error (.unserializable cause name)) ↔ envelope.IsFlawed)
  /-- Nothing else can happen to an envelope that has a name. -/
  otherwise : ∀ name, envelope.id = .ok name → ∀ error, envelope.toBytes = .error error →
    ∃ cause, error = .unserializable cause name
  /-- A text names the envelope as it is. -/
  named : ∀ name, Value.get? idHeader envelope.headers = some (.text name) →
    envelope.id = .ok name
  /-- An envelope without a name is named by the empty text. -/
  unnamed : Value.get? idHeader envelope.headers = none → envelope.id = .ok []

theorem isOk_toBytes_iff_not_flawed (envelope : Envelope) :
    (∃ bytes, envelope.toBytes = .ok bytes) ↔ ¬ envelope.IsFlawed := by
  unfold IsFlawed
  rw [isOk_toBytes_iff, not_or, isOk_lineBytes_iff]
  simp only [isOk_lineBytes_iff, not_exists, not_and]

/-- Where an envelope with a name has no bytes, the refusal names it. -/
theorem unserializable_of_error {envelope : Envelope} {name : Text} (named : envelope.id = .ok name)
    {error : WireError} (refused : envelope.toBytes = .error error) :
    ∃ cause, error = .unserializable cause name := by
  unfold toBytes at refused
  rw [named] at refused
  split at refused
  · cases refused
  · exact ⟨_, (Except.error.inj refused).symm⟩

/-- **An envelope is serialized unless it is flawed**, whatever values its headers hold. -/
theorem serialized_unless_flawed (envelope : Envelope) : envelope.Serializes where
  written := envelope.isOk_toBytes_iff_not_flawed
  refused name named := by
    rw [← not_iff_not, ← envelope.isOk_toBytes_iff_not_flawed]
    cases written : envelope.toBytes with
    | ok bytes => exact iff_of_true nofun ⟨bytes, rfl⟩
    | error fault =>
      obtain ⟨cause, rfl⟩ := unserializable_of_error named written
      exact iff_of_false (not_not.mpr ⟨cause, rfl⟩) nofun
  otherwise name named error refused := unserializable_of_error named refused
  named name found := by
    unfold id
    rw [found]
    rfl
  unnamed absent := by
    unfold id
    rw [absent]
    rfl

/-- A dictionary two levels down has a pair as a key. -/
def tangled : Envelope :=
  ⟨[(.text "event_id", .text "a"),
      (.text "n", .list [.tuple [.dict [(.tuple [.int 1, .int 2], .null)]]])], []⟩

/-- The type of the item is a surrogate, but its own headers give another one. -/
def overridden : Envelope :=
  ⟨[], [⟨[CodePoint.ofNat 0xD800], [], [(.text "type", .text "log")]⟩]⟩

/-- The pair is found and the envelope is named; a surrogate that is replaced does no harm. -/
theorem tangled_refused_overridden_written :
    (∃ cause, tangled.toBytes = .error (.unserializable cause "a")) ∧
      ∃ bytes, overridden.toBytes = .ok bytes := by
  constructor
  · refine ((serialized_unless_flawed tangled).refused "a" rfl).mpr (.inl ?_)
    refine ⟨.dict [(.tuple [.int 1, .int 2], .null)], ?_, .inr ⟨_, .head _, trivial⟩⟩
    exact .within (.tail _ (.head _)) (.within (.head _) (.within (.head _) .here))
  · refine (serialized_unless_flawed overridden).written.mpr ?_
    rintro (flawed | ⟨item, listed, flawed⟩)
    · exact (Json.write_iff _).mp ⟨_, rfl, rfl⟩ flawed
    · obtain rfl := List.mem_singleton.mp listed
      exact (Json.write_iff _).mp ⟨"\x7b\"type\":\"log\",\"length\":0\x7d",
        by decide +kernel, rfl⟩ flawed

end Envelope

end Courier
