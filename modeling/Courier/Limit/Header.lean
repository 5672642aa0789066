/-
**The header that limits categories.**

The header is a list of entries between commas. An entry has fields between colons: a plain
duration, then names of categories between semicolons; further fields are for information. Without
names the entry limits everything. An entry without a duration is skipped, and so is a name that is
blank or not known.

* `Limits.Entry.ofText_known`: an entry never names the unknown category.
-/
import Courier.Limit.Seconds
import Courier.Category
namespace Courier.Limits

/-- What an entry of the header says. -/
inductive Entry
  /-- It limits these categories for this long. -/
  | limit (seconds : Binary64) (categories : List Category)
  /-- It has no duration. -/
  | malformed (raw : Text)

namespace Entry

/-- The known categories among the names between semicolons. -/
def categoriesOf (names : Text) : List Category :=
  (((Text.splitOn ';' names).filter fun name => !name.strip.isEmpty).map
    Category.ofHeaderName).filter (· != .unknown)

/-- The categories that the fields after the duration name; all of them, if there are no names. -/
def scope (fields : List Text) : List Category :=
  let names := (fields.headD []).strip
  if names.isEmpty then [.any] else categoriesOf names

/-- Reads an entry. -/
def ofText (raw : Text) : Entry :=
  let fields := Text.splitOn ':' raw.strip
  match Seconds.parse (fields.headD []) with
  | .ok seconds => limit seconds (scope fields.tail)
  | .error _ => malformed raw

theorem scope_known (fields : List Text) : Category.unknown ∉ scope fields := by
  unfold scope categoriesOf
  simp only
  split
  · simp
  · simp

theorem ofText_known {raw : Text} {seconds : Binary64} {categories : List Category}
    (read : ofText raw = limit seconds categories) : Category.unknown ∉ categories := by
  unfold ofText at read
  simp only at read
  split at read
  · cases read
    exact scope_known _
  · cases read

end Entry

/-- The entries of a header. -/
def entries (header : Text) : List Entry :=
  (Text.splitOn ',' header).map Entry.ofText

end Courier.Limits
