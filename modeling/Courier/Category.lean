/-
**Rate-limit categories.**

The server throttles kinds of data independently. Each kind is a category; `any` stands for all of
them, and `unknown` takes whatever the list does not name.

* `Category.ofHeaderName_ne_any`: a name that is not blank never means all categories.
-/
import Courier.Text.Blank
import Courier.Text.LetterCase
namespace Courier

/-- A bucket that can be throttled by itself. -/
inductive Category
  /-- All categories at once. -/
  | any
  | error
  | session
  | transaction
  | attachment
  | monitor
  | logItem
  /-- None of the named ones. -/
  | unknown
  deriving DecidableEq

namespace Category

/-- The name on the wire. -/
def name : Category → String
  | any => "any"
  | error => "error"
  | session => "session"
  | transaction => "transaction"
  | attachment => "attachment"
  | monitor => "monitor"
  | logItem => "log_item"
  | unknown => "unknown"

/-- Every category, in the order of declaration. -/
def all : List Category :=
  [any, error, session, transaction, attachment, monitor, logItem, unknown]

/-- The category with exactly this name. -/
def ofName? (t : Text) : Option Category :=
  all.find? fun category => Text.ofString category.name == t

/-- The category that a name in a rate-limit header means: names are trimmed and lower-cased, a
blank one means all categories, and the two that are not valid on the wire are unknown. -/
def ofHeaderName (t : Text) : Category :=
  let name := t.strip.toLower
  if name.isEmpty then any
  else
    match ofName? name with
    | none | some any => unknown
    | some category => category

/-- The category of an item of the given type. -/
def ofItemType (t : Text) : Category :=
  if t = "event" then error
  else if t = "transaction" then transaction
  else if t = "session" || t = "sessions" then session
  else if t = "attachment" then attachment
  else if t = "check_in" then monitor
  else if t = "log" then logItem
  else unknown

theorem ofHeaderName_ne_any {t : Text} (named : t.strip.toLower ≠ []) :
    ofHeaderName t ≠ any := by
  unfold ofHeaderName
  simp only [List.isEmpty_iff, if_neg named]
  cases found : ofName? t.strip.toLower with
  | none => simp
  | some category => cases category <;> simp

theorem ofItemType_ne_any (t : Text) : ofItemType t ≠ any := by
  unfold ofItemType
  repeat' split
  all_goals simp

end Category

end Courier
