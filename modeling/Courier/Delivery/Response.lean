/-
**Responses.**

A response has a status, headers as bytes and a body that arrives when it is read, and may break off
with a failure. The headers are decoded together: all are ASCII, or else all are UTF-8, or else each
byte is a character. A header that comes more than once has its values joined.

* `Response.isError_iff`: the statuses that refuse a request.
-/
import Courier.Delivery.ContentType
import Courier.Failure
import Courier.Limit.Signal
namespace Courier

/-- What a server answers. -/
structure Response where
  status : Int
  /-- The headers as they came. -/
  headers : List (Bytes × Bytes)
  body : Bytes
  /-- What is raised once the body is read. -/
  broken : Option Failure

namespace Response

/-- The status refuses the request. -/
def isError (response : Response) : Bool :=
  400 ≤ response.status && response.status ≤ 599

theorem isError_iff {response : Response} :
    response.isError = true ↔ 400 ≤ response.status ∧ response.status ≤ 599 := by
  simp [isError]

/-- Bytes that are all ASCII, as a text. -/
def asciiText? (bytes : Bytes) : Option Text :=
  if bytes.all fun b => b.toNat < 0x80 then some (bytes.map Charset.asciiPoint) else none

/-- Each byte as the character of the same number. -/
def latinText? (bytes : Bytes) : Option Text :=
  some (bytes.map Charset.latin1Point)

/-- Names and values in one encoding, if all of them can be read. -/
def readHeaders? (read? : Bytes → Option Text) (headers : List (Bytes × Bytes)) :
    Option (List (Text × Text)) :=
  headers.mapM fun (name, value) => do
    let name ← read? name
    let value ← read? value
    return (name, value)

/-- Names and values in the first encoding that reads all of them. -/
def readHeaders (headers : List (Bytes × Bytes)) : List (Text × Text) :=
  ([asciiText?, Utf8.decode?, latinText?].findSome? fun read? => readHeaders? read? headers).getD []

/-- Adds a value to a header. -/
def addField (fields : ResponseHeaders) (header : Text × Text) : ResponseHeaders :=
  let name := header.1.toAsciiLower
  match Keyed.get? name fields with
  | none => Keyed.put name header.2 fields
  | some before => Keyed.put name (before ++ ", " ++ header.2) fields

/-- The headers by name in small letters, in the order in which the names first came. -/
def fields (response : Response) : ResponseHeaders :=
  (readHeaders response.headers).foldl addField []

/-- The header that names the content type. -/
def contentTypeHeader : Text :=
  "content-type"

/-- The text of the body; an empty one is empty whatever its character set. -/
def text (response : Response) : Except Charset.MissingMark Text :=
  if response.body.isEmpty then .ok []
  else (ContentType.charset (Keyed.get? contentTypeHeader response.fields)).decode response.body

/-- What the response says about limits. -/
def signal (response : Response) : Signal :=
  .ofResponse response.status response.fields

end Response

end Courier
