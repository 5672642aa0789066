/-
**The wire form of an envelope.**

One line of JSON with the headers, then for each item a line of JSON with its type, the length of
its payload and its headers, and the payload itself; a line feed ends each of them. Headers that
have no JSON form, or no UTF-8 form, make the whole envelope unserializable.

* `Envelope.toBytes_eq_ok`: the bytes are the lines of a successful writing, each with its line
  feed.
-/
import Courier.Envelope.Basic
import Courier.Json.Writer
namespace Courier

namespace Envelope

/-- Why a line of headers cannot be written. -/
inductive LineFault
  | json (fault : Json.Fault)
  | unencodable (fault : Unencodable)
  deriving DecidableEq

/-- The wording of a line's fault. -/
def LineFault.message : LineFault → Text
  | json fault => fault.message
  | unencodable fault => fault.message

/-- Why an envelope has no bytes. -/
inductive WireError
  /-- Some headers cannot be written; the envelope is named. -/
  | unserializable (cause : LineFault) (id : Text)
  /-- Some headers cannot be written, and the name of the envelope has no text either. -/
  | unnameable (fault : TooManyDigits)
  deriving DecidableEq

/-- The wording of an error. -/
def WireError.message : WireError → Text
  | unserializable cause _ => "Envelope headers are not serializable: " ++ cause.message
  | unnameable fault => fault.message

/-- The bytes of a line of headers. -/
def lineBytes (entries : Entries) : Except LineFault Bytes :=
  match Json.write Json.compact (.dict entries) with
  | .error fault => .error (.json fault)
  | .ok line =>
    match Utf8.encode line with
    | .error fault => .error (.unencodable fault)
    | .ok bytes => .ok bytes

/-- The key of an item's type. -/
def typeHeader : Value :=
  .text "type"

/-- The key of a payload's length. -/
def lengthHeader : Value :=
  .text "length"

/-- What the header line of an item holds: type and length, then the headers of the item, which
replace these two if they have the same names. -/
def itemEntries (item : Item) : Entries :=
  Value.entriesOf ((typeHeader, .text item.kind) :: (lengthHeader, .int item.payload.length) ::
    item.headers)

/-- The line feed. -/
def lineFeed : UInt8 :=
  byte 0x0A

/-- The header line and the payload of an item, each with its line feed. -/
def itemBytes (item : Item) : Except LineFault Bytes :=
  (lineBytes (itemEntries item)).map fun line =>
    line ++ lineFeed :: item.payload ++ [lineFeed]

/-- The lines of several items. -/
def itemsBytes : List Item → Except LineFault Bytes
  | [] => .ok []
  | item :: rest => do
    let first ← itemBytes item
    let others ← itemsBytes rest
    return first ++ others

/-- All lines of an envelope. -/
def linesBytes (envelope : Envelope) : Except LineFault Bytes := do
  let head ← lineBytes envelope.headers
  let items ← itemsBytes envelope.items
  return head ++ lineFeed :: items

/-- The body of the request that sends the envelope. -/
def toBytes (envelope : Envelope) : Except WireError Bytes :=
  match envelope.linesBytes with
  | .ok bytes => .ok bytes
  | .error cause =>
    match envelope.id with
    | .ok id => .error (.unserializable cause id)
    | .error fault => .error (.unnameable fault)

theorem toBytes_eq_ok {envelope : Envelope} {bytes : Bytes} :
    envelope.toBytes = .ok bytes ↔ envelope.linesBytes = .ok bytes := by
  unfold toBytes
  cases envelope.linesBytes with
  | ok written => simp
  | error cause =>
    cases envelope.id <;> simp

end Envelope

end Courier
