/-
**Percent coding.**

In a part of a URL the unreserved characters and those that are safe in that part stand as they
are, and so does an escape that is already there. Everything else is written as the escapes of its
UTF-8 bytes, which a surrogate lacks. Decoding turns escapes into bytes and reads the whole as
UTF-8, with a replacement character for each ill-formed stretch.

* `Percent.encode_eq_self`: a text of unreserved characters is kept.
-/
import Courier.Text.Utf8
namespace Courier.Percent

/-- Letters, digits, hyphen, point, underscore and tilde. -/
def isUnreserved (c : CodePoint) : Bool :=
  c.isAsciiLetter || c.isAsciiDigit || c = '-' || c = '.' || c = '_' || c = '~'

/-- The escape of a byte. -/
def escapeByte (b : UInt8) : Text :=
  "%" ++ Text.ofUpperHex 2 b.toNat

/-- The escapes of a code point. -/
def escape (c : CodePoint) : Except Unencodable Text :=
  (Utf8.encode [c]).map fun bytes => bytes.flatMap escapeByte

/-- The text with everything escaped that is neither unreserved nor `safe`, escapes apart. -/
def encode (safe : CodePoint → Bool) : Text → Except Unencodable Text
  | [] => .ok []
  | c :: rest =>
    match rest with
    | a :: b :: after =>
      if c = '%' && a.hexDigit?.isSome && b.hexDigit?.isSome then do
        let others ← encode safe after
        return c :: a :: b :: others
      else do
        let first ← if isUnreserved c || safe c then .ok [c] else escape c
        let others ← encode safe (a :: b :: after)
        return first ++ others
    | rest => do
      let first ← if isUnreserved c || safe c then .ok [c] else escape c
      let others ← encode safe rest
      return first ++ others

/-- The bytes of an ASCII text, with each escape as its byte. -/
def decodeBytes : Text → Bytes
  | [] => []
  | c :: rest =>
    match rest with
    | a :: b :: after =>
      match if c = '%' then a.hexDigit? else none, b.hexDigit? with
      | some high, some low => byte (high * 16 + low) :: decodeBytes after
      | _, _ => byte c.val :: decodeBytes (a :: b :: after)
    | rest => byte c.val :: decodeBytes rest

/-- The text that an ASCII text with escapes stands for. -/
def decode (t : Text) : Text :=
  if t.contains (CodePoint.ofChar '%') then Utf8.decodeLossy (decodeBytes t) else t

theorem encode_eq_self {safe : CodePoint → Bool} {t : Text} (plain : ∀ c ∈ t, isUnreserved c) :
    encode safe t = .ok t := by
  have notEscape : ∀ c, isUnreserved c → c ≠ CodePoint.ofChar '%' := by
    rintro c unreserved rfl
    revert unreserved
    decide
  induction t with
  | nil => rfl
  | cons c rest ih =>
    have here : isUnreserved c := plain c (by simp)
    have later := ih fun d mem => plain d (by simp [mem])
    have other := notEscape c here
    unfold encode
    split
    · simp only [other, decide_false, Bool.false_and, Bool.false_eq_true, if_false, here,
        Bool.true_or, if_true, later]
      rfl
    · simp only [here, Bool.true_or, if_true, later]
      rfl

end Courier.Percent
