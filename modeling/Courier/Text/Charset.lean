/-
**Character sets.**

How bytes are read that come with the name of a character set: UTF-8 with or without a mark, UTF-16
in either order, ASCII, the first Latin part and the sets of one byte a character that have a
table. Bytes that a set lacks are read as the replacement character, so that reading fails only for
UTF-16 whose order is to be told by a mark and is not. Names are compared without regard to case
and to what separates their parts.

* `Charset.decode_of_ne`: only UTF-16 that is to begin with a mark can fail to be read.
-/
import Courier.Text.ByteSet
namespace Courier

/-- A character set. -/
inductive Charset
  | utf8
  /-- UTF-8 after an optional byte order mark. -/
  | markedUtf8
  | ascii
  | latin1
  /-- A set of one byte a character that has a table. -/
  | table (set : ByteSet)
  /-- UTF-16, whose order a mark tells. -/
  | utf16
  /-- UTF-16, the low byte first. -/
  | utf16Low
  /-- UTF-16, the high byte first. -/
  | utf16High
  deriving DecidableEq

namespace Charset

/-- The names of a character set, in normal form. -/
def names : Charset → List String
  | utf8 => ["utf_8", "utf8", "u8", "utf", "utf8_ucs2", "utf8_ucs4", "cp65001"]
  | markedUtf8 => ["utf_8_sig"]
  | ascii => ["ascii", "us_ascii", "us", "646", "ansi_x3.4_1968", "ansi_x3_4_1968",
      "ansi_x3.4_1986", "cp367", "csascii", "ibm367", "iso646_us", "iso_646.irv_1991", "iso_ir_6"]
  | latin1 => ["latin_1", "latin1", "latin", "l1", "iso8859_1", "iso_8859_1", "iso_8859_1_1987",
      "iso8859", "8859", "cp819", "ibm819", "csisolatin1", "iso_ir_100"]
  | table set => set.names
  | utf16 => ["utf_16", "utf16", "u16"]
  | utf16Low => ["utf_16_le", "utf_16le", "unicodelittleunmarked"]
  | utf16High => ["utf_16_be", "utf_16be", "unicodebigunmarked"]

/-- All character sets. -/
def all : List Charset :=
  [utf8, markedUtf8, ascii, latin1, utf16, utf16Low, utf16High] ++ ByteSet.all.map table

/-- A character that counts in a name; the others separate. -/
def isNameChar (c : CodePoint) : Bool :=
  c.isAsciiLetter || c.isAsciiDigit || c = '.'

/-- The normal form of a name: small letters, and one low line for each run of separators that
stands between other characters. -/
def normalName (name : Text) : Text :=
  let pieces := Text.splitOn '_' (name.map fun c =>
    if isNameChar c then c.toAsciiLower else CodePoint.ofChar '_')
  Text.join "_" (pieces.filter fun piece => !piece.isEmpty)

/-- The character set of a name. -/
def ofName? (name : Text) : Option Charset :=
  all.find? fun charset => charset.names.any fun known => Text.ofString known == normalName name

/-- What is read where a set has no character. -/
def replacement : CodePoint :=
  CodePoint.ofNat 0xFFFD

/-- The character of a byte in ASCII. -/
def asciiPoint (b : UInt8) : CodePoint :=
  if b.toNat < 0x80 then CodePoint.ofNat b.toNat else replacement

/-- The character of a byte in the first Latin part. -/
def latin1Point (b : UInt8) : CodePoint :=
  CodePoint.ofNat b.toNat

/-- The first half of a pair in UTF-16. -/
def isHighHalf (unit : Nat) : Bool :=
  0xD800 ≤ unit && unit < 0xDC00

/-- The second half of a pair in UTF-16. -/
def isLowHalf (unit : Nat) : Bool :=
  0xDC00 ≤ unit && unit < 0xE000

/-- Reads the units of UTF-16; a half without its other half is replaced. -/
def decodeUnits : List Nat → Text
  | [] => []
  | unit :: rest =>
    if isLowHalf unit then replacement :: decodeUnits rest
    else if isHighHalf unit then
      match rest with
      | low :: after =>
        if isLowHalf low then
          CodePoint.ofNat (0x10000 + (unit - 0xD800) * 0x400 + (low - 0xDC00)) :: decodeUnits after
        else replacement :: decodeUnits (low :: after)
      | [] => [replacement]
    else CodePoint.ofNat unit :: decodeUnits rest

/-- The units of UTF-16 that `unit` makes of pairs of bytes, and whether a byte is left over. -/
def units (unit : UInt8 → UInt8 → Nat) : Bytes → List Nat × Bool
  | [] => ([], false)
  | [_] => ([], true)
  | a :: b :: rest =>
    let (others, left) := units unit rest
    (unit a b :: others, left)

/-- Reads UTF-16; what is cut off at the end is one replacement. -/
def decodeUtf16 (unit : UInt8 → UInt8 → Nat) (bytes : Bytes) : Text :=
  let (halves, left) := units unit bytes
  let cut := match halves.getLast? with
    | some last => isHighHalf last
    | none => false
  decodeUnits halves ++ if left && !cut then [replacement] else []

/-- The unit whose low byte comes first. -/
def lowFirst (a b : UInt8) : Nat :=
  b.toNat * 0x100 + a.toNat

/-- The unit whose high byte comes first. -/
def highFirst (a b : UInt8) : Nat :=
  a.toNat * 0x100 + b.toNat

/-- The UTF-8 form of a byte order mark. -/
def mark : Bytes :=
  [0xEF, 0xBB, 0xBF]

/-- Without the UTF-8 form of a byte order mark at the start, also where the bytes end within it. -/
def dropMark (bytes : Bytes) : Bytes :=
  if bytes.take 3 = mark.take bytes.length then bytes.drop 3 else bytes

/-- UTF-16 that has to begin with a mark does not. -/
structure MissingMark where
  deriving DecidableEq

/-- The wording of the fault. -/
def MissingMark.message (_ : MissingMark) : Text :=
  "UTF-16 stream does not start with BOM"

/-- Reads UTF-16 in the order that its mark tells; a single byte is cut off before any mark. -/
def decodeMarkedUtf16 (bytes : Bytes) : Except MissingMark Text :=
  match bytes with
  | a :: b :: rest =>
    if lowFirst a b = 0xFEFF then .ok (decodeUtf16 lowFirst rest)
    else if highFirst a b = 0xFEFF then .ok (decodeUtf16 highFirst rest)
    else .error {}
  | _ => .ok (decodeUtf16 lowFirst bytes)

/-- Reads bytes in a character set. -/
def decode : Charset → Bytes → Except MissingMark Text
  | utf8, bytes => .ok (Utf8.decodeLossy bytes)
  | markedUtf8, bytes => .ok (Utf8.decodeLossy (dropMark bytes))
  | ascii, bytes => .ok (bytes.map asciiPoint)
  | latin1, bytes => .ok (bytes.map latin1Point)
  | table set, bytes => .ok (set.decode bytes)
  | utf16, bytes => decodeMarkedUtf16 bytes
  | utf16Low, bytes => .ok (decodeUtf16 lowFirst bytes)
  | utf16High, bytes => .ok (decodeUtf16 highFirst bytes)

theorem decode_table (set : ByteSet) (bytes : Bytes) :
    decode (table set) bytes = .ok (set.decode bytes) :=
  rfl

/-- Only UTF-16 that is to begin with a mark can fail to be read. -/
theorem decode_of_ne {charset : Charset} (other : charset ≠ utf16) (bytes : Bytes) :
    ∃ t, decode charset bytes = .ok t := by
  cases charset with
  | utf16 => exact absurd rfl other
  | _ => exact ⟨_, rfl⟩

end Charset

end Courier
