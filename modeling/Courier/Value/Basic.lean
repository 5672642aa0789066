/-
**Header values.**

An envelope is built by the surrounding application, so its headers hold whatever values the
application put there. `Value` covers them: those that JSON can carry, and those that it cannot.
A dictionary is the list of its entries in the order in which their keys were first set.

* `Value.get?_put_same`: a key that was just set is found with its new value.
* `Value.length_put_of_present`: setting a present key again adds no entry.
-/
import Courier.Number.Decimal
import Courier.Text.Utf8
namespace Courier

/-- A value in a header. -/
inductive Value
  /-- No value. -/
  | null
  | bool (b : Bool)
  | int (i : Int)
  | float (x : Binary64)
  | text (t : Text)
  | bytes (b : Bytes)
  | list (elements : List Value)
  /-- A fixed sequence. -/
  | tuple (elements : List Value)
  | set (elements : List Value)
  | dict (entries : List (Value × Value))
  /-- A value without any content that can be shown. -/
  | object
  /-- A list whose only element is itself. -/
  | cycle

/-- The entries of a dictionary, in insertion order. -/
abbrev Entries := List (Value × Value)

namespace Value

instance : Inhabited Value := ⟨null⟩

/-- The word for the kind of a value. -/
def kind : Value → String
  | null => "NoneType"
  | bool _ => "bool"
  | int _ => "int"
  | float _ => "float"
  | text _ => "str"
  | bytes _ => "bytes"
  | list _ => "list"
  | tuple _ => "tuple"
  | set _ => "set"
  | dict _ => "dict"
  | object => "object"
  | cycle => "list"

/-- The whole number that a value equals as a dictionary key. -/
def wholeNumber? : Value → Option Int
  | bool b => some b.toNat
  | int i => some i
  | float x => x.toInt?
  | _ => none

mutual

/-- Equal as dictionary keys: numbers by value, whatever their kind; a NaN and an object without
content equal nothing. -/
def sameKey : Value → Value → Bool
  | null, null => true
  | text a, text b => a == b
  | bytes a, bytes b => a == b
  | float x, float y => x.beq y
  | tuple as, tuple bs => sameKeys as bs
  | a, b =>
    match a.wholeNumber?, b.wholeNumber? with
    | some i, some j => i == j
    | _, _ => false

/-- Equal length, and equal as keys place by place. -/
def sameKeys : List Value → List Value → Bool
  | [], [] => true
  | a :: as, b :: bs => sameKey a b && sameKeys as bs
  | _, _ => false

end

/-- The value under a key. -/
def get? (key : Value) (entries : Entries) : Option Value :=
  (entries.find? fun entry => entry.1.sameKey key).map (·.2)

/-- Sets the value of a key, in place if the key is present, else at the end. -/
def put (key value : Value) : Entries → Entries
  | [] => [(key, value)]
  | entry :: rest =>
    if entry.1.sameKey key then (entry.1, value) :: rest else entry :: put key value rest

/-- The entries that come from setting the pairs in order. -/
def entriesOf (pairs : List (Value × Value)) : Entries :=
  pairs.foldl (fun entries pair => put pair.1 pair.2 entries) []

/-- The elements of a set, without those that equal an earlier one. -/
def elementsOf (values : List Value) : List Value :=
  (values.foldl (fun kept value =>
    if kept.any (·.sameKey value) then kept else value :: kept) []).reverse

theorem get?_put_same (key value : Value) (entries : Entries) (reflexive : key.sameKey key) :
    get? key (put key value entries) = some value := by
  induction entries with
  | nil => simp [put, get?, reflexive]
  | cons entry rest ih =>
    unfold put
    split
    · rename_i same
      simp [get?, same]
    · rename_i other
      have skipped := List.find?_cons_of_neg (p := fun entry : Value × Value =>
        entry.1.sameKey key) (l := put key value rest) other
      unfold get? at ih ⊢
      rw [skipped]
      exact ih

theorem length_put_of_present (key value : Value) (entries : Entries)
    (present : entries.any fun entry => entry.1.sameKey key) :
    (put key value entries).length = entries.length := by
  induction entries with
  | nil => simp at present
  | cons entry rest ih =>
    unfold put
    split
    · simp
    · rename_i other
      have later : rest.any fun entry => entry.1.sameKey key := by
        simpa [other] using present
      simpa using ih later

end Value

end Courier
