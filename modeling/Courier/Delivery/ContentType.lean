/-
**The content type of a response.**

A content type is a media type and parameters, set apart by semicolons that stand outside quotes.
The parameter `charset` names the character set of the body. Without it, or with a name that is not
known, the body is UTF-8.

* `ContentType.charset_none`: a response without a content type is read as UTF-8.
-/
import Courier.Text.Blank
import Courier.Text.Charset
import Courier.Text.LetterCase
namespace Courier.ContentType

/-- The pieces between the semicolons outside quotes; a backslash takes a quote's meaning away.
`piece` holds, in reverse, what is read of the current piece. -/
def pieces (quoted : Bool) (piece : Text) : Text → List Text
  | [] => [piece.reverse]
  | c :: rest =>
    if c = ';' && !quoted then piece.reverse :: pieces false [] rest
    else if c = '"' && piece.head? != some (CodePoint.ofChar '\\') then
      pieces (!quoted) (c :: piece) rest
    else pieces quoted (c :: piece) rest

/-- Without the quotes or angle brackets around it; inside quotes a backslash before a backslash or
a quote is dropped. -/
def unwrap (t : Text) : Text :=
  let inside := (t.drop 1).dropLast
  if t.length < 2 then t
  else if t.head? = some (CodePoint.ofChar '"') && t.getLast? = some (CodePoint.ofChar '"') then
    unescape '"' (unescape '\\' inside)
  else if t.head? = some (CodePoint.ofChar '<') && t.getLast? = some (CodePoint.ofChar '>') then
    inside
  else t
where
  /-- Drops the backslash before each `c`. -/
  unescape (c : CodePoint) : Text → Text
    | a :: b :: rest => if a = '\\' && b = c then c :: unescape c rest else a :: unescape c (b :: rest)
    | t => t

/-- The value of a parameter in a piece, if the piece holds the parameter; without an equals sign
it is empty. -/
def valueIn? (name : Text) (piece : Text) : Option Text :=
  let (key, value) := Text.cut '=' piece
  if (Text.trim CodePoint.isBlank key).toLower = name then
    some (unwrap (Text.trim CodePoint.isBlank (value.getD [])))
  else none

/-- The value of a parameter; the first one counts. -/
def parameter? (name contentType : Text) : Option Text :=
  (pieces false [] contentType).findSome? (valueIn? name)

/-- The parameter that names the character set. -/
def charsetName : Text :=
  "charset"

/-- The character set of a name that is plain ASCII. -/
def known? (name : Text) : Option Charset :=
  if name.all CodePoint.isAscii then Charset.ofName? name else none

/-- The character set that a content type, if there is one, asks for. -/
def charset (contentType : Option Text) : Charset :=
  ((contentType.bind (parameter? charsetName)).bind known?).getD .utf8

theorem charset_none : charset none = .utf8 :=
  rfl

end Courier.ContentType
