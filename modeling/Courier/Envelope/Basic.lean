/-
**Envelopes.**

An envelope is what is sent in one request: headers, and items that each have a type, a payload and
headers of their own. It is never changed; filtering gives another envelope.

* `Envelope.filter_eq_none_iff`: an envelope vanishes exactly when no item is kept.
* `Envelope.filter_headers`: filtering keeps the headers.
-/
import Courier.Category
import Courier.Value.Shown
namespace Courier

/-- A typed payload inside an envelope. -/
structure Item where
  /-- The type, which decides the category. -/
  kind : Text
  payload : Bytes
  headers : Entries

/-- The category of an item. -/
def Item.category (item : Item) : Category :=
  Category.ofItemType item.kind

/-- A unit of telemetry, sent in one request. -/
structure Envelope where
  headers : Entries
  items : List Item

namespace Envelope

/-- The header that names an envelope. -/
def idHeader : Value :=
  .text "event_id"

/-- The name of an envelope: the text of its header, or nothing. -/
def id (envelope : Envelope) : Except TooManyDigits Text :=
  ((Value.get? idHeader envelope.headers).getD (.text [])).toText

/-- An envelope of the given items, which is named `fresh` unless the headers name it. -/
def ofItems (fresh : Text) (headers : Entries) (items : List Item) : Envelope :=
  match Value.get? idHeader headers with
  | some _ => ⟨headers, items⟩
  | none => ⟨Value.put idHeader (.text fresh) headers, items⟩

/-- The categories of the items, each once. -/
def categories (envelope : Envelope) : List Category :=
  Category.all.filter fun category => envelope.items.any (·.category = category)

/-- No item is dropped. -/
def keepsAll (keep : Item → Bool) (envelope : Envelope) : Bool :=
  envelope.items.all keep

/-- The envelope with only the items that are kept, if there is one. -/
def filter (keep : Item → Bool) (envelope : Envelope) : Option Envelope :=
  match envelope.items.filter keep with
  | [] => none
  | kept => some ⟨envelope.headers, kept⟩

theorem filter_eq_none_iff {keep : Item → Bool} {envelope : Envelope} :
    envelope.filter keep = none ↔ ∀ item ∈ envelope.items, keep item = false := by
  unfold filter
  constructor
  · intro vanishes
    split at vanishes
    · rename_i empty
      simpa using empty
    · cases vanishes
  · intro dropped
    have empty : envelope.items.filter keep = [] := by simpa using dropped
    rw [empty]

theorem filter_eq_some {keep : Item → Bool} {envelope kept : Envelope}
    (some : envelope.filter keep = some kept) :
    kept.headers = envelope.headers ∧ kept.items = envelope.items.filter keep := by
  unfold filter at some
  split at some
  · cases some
  · cases some
    exact ⟨rfl, rfl⟩

theorem filter_headers {keep : Item → Bool} {envelope kept : Envelope}
    (some : envelope.filter keep = some kept) : kept.headers = envelope.headers :=
  (filter_eq_some some).1

theorem filter_of_keepsAll {keep : Item → Bool} {envelope : Envelope}
    (all : envelope.keepsAll keep) (item : envelope.items ≠ []) :
    envelope.filter keep = some envelope := by
  have same : envelope.items.filter keep = envelope.items := by
    simpa [keepsAll, List.filter_eq_self] using all
  unfold filter
  rw [same]
  split
  · contradiction
  · rfl

end Envelope

end Courier
