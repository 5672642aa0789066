/-
**Reading an envelope back.**

The receiving side: the first line is a JSON object with the headers; after it each item is a line
with a JSON object that gives type and length, then exactly that many bytes, then a line feed, up
to the end of the input.

* `Envelope.splitLine_append`: a line without line feeds is cut where it ends.
-/
import Courier.Envelope.Wire
import Courier.Json.Reader
namespace Courier

namespace Envelope

/-- The bytes before the first line feed, and those after it. -/
def splitLine : Bytes → Option (Bytes × Bytes)
  | [] => none
  | b :: rest =>
    if b = lineFeed then some ([], rest)
    else (splitLine rest).map fun (line, after) => (b :: line, after)

/-- The entries of the JSON object on a line. -/
def readLine (line : Bytes) : Option Entries :=
  match (Utf8.decode? line).bind Json.read with
  | some (.dict entries) => some entries
  | _ => none

/-- The entries with keys other than type and length. -/
def ownHeaders (entries : Entries) : Entries :=
  entries.filter fun entry => !(entry.1.sameKey typeHeader || entry.1.sameKey lengthHeader)

/-- Reads one item at the start of the bytes. -/
def readItem (bytes : Bytes) : Option (Item × Bytes) := do
  let (line, rest) ← splitLine bytes
  let entries ← readLine line
  match Value.get? typeHeader entries, Value.get? lengthHeader entries with
  | some (.text kind), some (.int length) =>
    if length < 0 || rest.length < length.toNat then none
    else
      match rest.drop length.toNat with
      | b :: after =>
        if b = lineFeed then some (⟨kind, rest.take length.toNat, ownHeaders entries⟩, after)
        else none
      | [] => none
  | _, _ => none

/-- Reads items until the input ends; `fuel` bounds their number. -/
def readItems (fuel : Nat) (bytes : Bytes) : Option (List Item) :=
  match fuel with
  | 0 => if bytes.isEmpty then some [] else none
  | fuel + 1 =>
    if bytes.isEmpty then some []
    else
      match readItem bytes with
      | none => none
      | some (item, rest) => (readItems fuel rest).map (item :: ·)

/-- The envelope that the bytes are the wire form of. -/
def ofBytes? (bytes : Bytes) : Option Envelope := do
  let (line, rest) ← splitLine bytes
  let headers ← readLine line
  let items ← readItems rest.length rest
  return ⟨headers, items⟩

theorem splitLine_append {line rest : Bytes} (single : lineFeed ∉ line) :
    splitLine (line ++ lineFeed :: rest) = some (line, rest) := by
  induction line with
  | nil => simp [splitLine]
  | cons b tail ih =>
    have other : b ≠ lineFeed := fun same => single (by simp [same])
    have later : lineFeed ∉ tail := fun mem => single (by simp [mem])
    rw [List.cons_append, splitLine, if_neg other, ih later]
    rfl

end Envelope

end Courier
