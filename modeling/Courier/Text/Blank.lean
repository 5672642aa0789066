/-
**White space.**

The code points that trimming removes and that separate words: the White_Space property of Unicode
together with the four information separators U+001C to U+001F. The zero-width space and the byte
order mark are not among them.

* `isBlank_of_isWhitespace`: every character that the core library calls white space is blank.
-/
import Courier.Text.Basic
namespace Courier

/-- The ranges of blank code points. -/
def blankRanges : List (Nat × Nat) :=
  [(0x0009, 0x000D), (0x001C, 0x0020), (0x0085, 0x0085), (0x00A0, 0x00A0), (0x1680, 0x1680),
   (0x2000, 0x200A), (0x2028, 0x2029), (0x202F, 0x202F), (0x205F, 0x205F), (0x3000, 0x3000)]

/-- White space in the sense of Unicode, or one of the information separators. -/
def CodePoint.isBlank (c : CodePoint) : Bool :=
  inRanges blankRanges c.val

/-- White space in the sense of Unicode. -/
def CodePoint.isWhite (c : CodePoint) : Bool :=
  c.isBlank && !(0x1C ≤ c.val && c.val ≤ 0x1F)

theorem isBlank_of_isWhitespace (c : Char) (white : c.isWhitespace) :
    (CodePoint.ofChar c).isBlank := by
  simp only [Char.isWhitespace, Bool.or_eq_true, decide_eq_true_eq] at white
  rcases white with ((same | same) | same) | same <;> subst same <;> decide

namespace Text

/-- The text without the white space at either end. -/
def strip (t : Text) : Text :=
  t.trim CodePoint.isBlank

/-- The text without trailing white space. -/
def stripRight (t : Text) : Text :=
  t.trimRight CodePoint.isBlank

/-- The words between stretches of white space; `word` is the one being read, last first. -/
def wordsFrom (word : Text) : Text → List Text
  | [] => if word.isEmpty then [] else [word.reverse]
  | c :: rest =>
    if c.isBlank then
      if word.isEmpty then wordsFrom [] rest else word.reverse :: wordsFrom [] rest
    else wordsFrom (c :: word) rest

/-- The words between stretches of white space. -/
def words (t : Text) : List Text :=
  wordsFrom [] t

end Text

end Courier
