/-
**Text as a list of code points.**

A `Char` of the core library is a Unicode scalar value, so it cannot be a lone surrogate. Header
values, identifiers and settings that reach the transport can hold lone surrogates, and several
rules turn on whether they do (such a text has no UTF-8 form). `CodePoint` therefore ranges over
every number below `0x110000`, and `Text` is a list of them.

* `CodePoint.ofChar_injective`, `CodePoint.toChar?_ofChar`: the scalar values are among the code
  points, and nothing else is read back as one.
-/
namespace Courier

/-- A Unicode code point; a lone surrogate is one too. -/
structure CodePoint where
  /-- The number of the code point. -/
  val : Nat
  val_lt : val < 0x110000
  deriving DecidableEq

/-- A text is the list of its code points. -/
abbrev Text := List CodePoint

namespace CodePoint

/-- The code point of a scalar value. -/
def ofChar (c : Char) : CodePoint :=
  ⟨c.toNat, by
    have valid := c.valid
    simp only [UInt32.isValidChar, Nat.isValidChar] at valid
    have same : c.toNat = c.val.toNat := rfl
    omega⟩

instance : Coe Char CodePoint := ⟨ofChar⟩

/-- The code point of a number; numbers out of range give the replacement character. -/
def ofNat (n : Nat) : CodePoint :=
  if h : n < 0x110000 then ⟨n, h⟩ else ⟨0xFFFD, by decide⟩

/-- One half of a surrogate pair, which stands for no character by itself. -/
def isSurrogate (c : CodePoint) : Bool :=
  0xD800 ≤ c.val && c.val ≤ 0xDFFF

/-- One of the first 128 code points. -/
def isAscii (c : CodePoint) : Bool :=
  c.val < 0x80

/-- The scalar value of a code point, if it is no surrogate. -/
def toChar? (c : CodePoint) : Option Char :=
  if h : c.val.isValidChar then some (Char.ofNatAux c.val h) else none

/-- U+FFFD, which stands in for what cannot be decoded. -/
def replacement : CodePoint :=
  ⟨0xFFFD, by decide⟩

@[simp] theorem val_ofChar (c : Char) : (ofChar c).val = c.toNat :=
  rfl

@[simp] theorem ofNat_val (c : CodePoint) : ofNat c.val = c :=
  dif_pos c.val_lt

theorem ofChar_injective {a b : Char} (same : ofChar a = ofChar b) : a = b := by
  have values : a.toNat = b.toNat := congrArg CodePoint.val same
  exact Char.ext (UInt32.toNat_inj.mp values)

@[simp] theorem ofChar_inj {a b : Char} : ofChar a = ofChar b ↔ a = b :=
  ⟨ofChar_injective, congrArg ofChar⟩

@[simp] theorem toChar?_ofChar (c : Char) : (ofChar c).toChar? = some c := by
  have valid : c.toNat.isValidChar := c.valid
  have taken : (ofChar c).toChar? = some (Char.ofNatAux c.toNat valid) := dif_pos valid
  rw [taken]
  exact congrArg some (Char.ext (UInt32.toNat_inj.mp rfl))

/-- An ASCII digit. -/
def isAsciiDigit (c : CodePoint) : Bool :=
  0x30 ≤ c.val && c.val ≤ 0x39

/-- An ASCII letter. -/
def isAsciiLetter (c : CodePoint) : Bool :=
  (0x41 ≤ c.val && c.val ≤ 0x5A) || (0x61 ≤ c.val && c.val ≤ 0x7A)

/-- The value of an ASCII digit. -/
def asciiDigit? (c : CodePoint) : Option Nat :=
  if c.isAsciiDigit then some (c.val - 0x30) else none

/-- The value of a hexadecimal digit, in either case. -/
def hexDigit? (c : CodePoint) : Option Nat :=
  if 0x30 ≤ c.val && c.val ≤ 0x39 then some (c.val - 0x30)
  else if 0x41 ≤ c.val && c.val ≤ 0x46 then some (c.val - 0x37)
  else if 0x61 ≤ c.val && c.val ≤ 0x66 then some (c.val - 0x57)
  else none

/-- ASCII capitals become small; all else stays. -/
def toAsciiLower (c : CodePoint) : CodePoint :=
  if c.val < 0x41 then c
  else if h : c.val ≤ 0x5A then ⟨c.val + 0x20, by omega⟩
  else c

end CodePoint

/-- Membership in a list of closed ranges of numbers. -/
def inRanges (ranges : List (Nat × Nat)) (n : Nat) : Bool :=
  ranges.any fun range => range.1 ≤ n && n ≤ range.2

end Courier
