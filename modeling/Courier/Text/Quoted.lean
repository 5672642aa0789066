/-
**Quoted text.**

How a text or a string of bytes is shown inside a message. The quotation mark is the single one,
unless the text holds a single and no double one. The backslash and the mark in use are escaped,
line feed, carriage return and tab have letters, and what is not printable is written by number.

* `Text.quoted_eq_of_plain`: a text of plain printable characters is shown as it is.
-/
import Courier.Text.Printable
import Courier.Text.Utf8
namespace Courier

/-- A code point written by its number, in two, four or eight hexadecimal digits. -/
def CodePoint.byNumber (c : CodePoint) : Text :=
  if c.val < 0x100 then "\\x" ++ Text.ofHex 2 c.val
  else if c.val < 0x10000 then "\\u" ++ Text.ofHex 4 c.val
  else "\\U" ++ Text.ofHex 8 c.val

/-- One code point between the quotation marks `mark`. -/
def CodePoint.quotedIn (c mark : CodePoint) : Text :=
  if c = mark || c = '\\' then ['\\', c]
  else if c = '\n' then "\\n"
  else if c = '\r' then "\\r"
  else if c = '\t' then "\\t"
  else if c.val < 0x20 || c.val = 0x7F then c.byNumber
  else if c.isAscii || c.isPrintable then [c]
  else c.byNumber

namespace Text

/-- The quotation mark for a text. -/
def quotationMark (t : Text) : CodePoint :=
  if t.contains (CodePoint.ofChar '\'') && !t.contains (CodePoint.ofChar '"') then '"' else '\''

/-- A text between quotation marks, with escapes. -/
def quoted (t : Text) : Text :=
  let mark := t.quotationMark
  mark :: t.flatMap (·.quotedIn mark) ++ [mark]

theorem quoted_eq_of_plain {t : Text}
    (plain : ∀ c ∈ t, c ≠ CodePoint.ofChar '\'' ∧ c ≠ CodePoint.ofChar '\\' ∧ 0x20 ≤ c.val ∧
      c.val < 0x7F) :
    t.quoted = CodePoint.ofChar '\'' :: t ++ [CodePoint.ofChar '\''] := by
  have noMark : CodePoint.ofChar '\'' ∉ t := fun mem => (plain _ mem).1 rfl
  have mark : t.quotationMark = CodePoint.ofChar '\'' := by simp [quotationMark, noMark]
  have single : ∀ c ∈ t, c.quotedIn (CodePoint.ofChar '\'') = [c] := fun c mem => by
    obtain ⟨notMark, notSlash, low, high⟩ := plain c mem
    have other : ∀ d : Char, d.toNat < 0x20 → c ≠ CodePoint.ofChar d := fun d small same => by
      rw [same, CodePoint.val_ofChar] at low
      omega
    have ascii : c.isAscii = true := by simp [CodePoint.isAscii]; omega
    have visible : ¬(c.val < 0x20 ∨ c.val = 0x7F) := by omega
    simp [CodePoint.quotedIn, notMark, notSlash, other '\n' (by decide), other '\r' (by decide),
      other '\t' (by decide), ascii, visible]
  have body : ∀ s : Text, (∀ c ∈ s, c.quotedIn (CodePoint.ofChar '\'') = [c]) →
      s.flatMap (·.quotedIn (CodePoint.ofChar '\'')) = s := fun s => by
    induction s with
    | nil => simp
    | cons c rest ih =>
      intro all
      rw [List.flatMap_cons, all c (by simp), ih fun d mem => all d (by simp [mem])]
      rfl
  simp only [quoted, mark, body t single]

end Text

/-- Bytes between quotation marks, with escapes. -/
def Bytes.quoted (bytes : Bytes) : Text :=
  let shown : Text := bytes.map fun b => CodePoint.ofNat b.toNat
  let mark := shown.quotationMark
  let body := shown.flatMap fun c => if c.isAscii then c.quotedIn mark else c.byNumber
  "b" ++ [mark] ++ body ++ [mark]

/-- The wording for a text that cannot be encoded. -/
def Unencodable.message (e : Unencodable) : Text :=
  let codec : Text := "'" ++ Text.ofString e.encoding ++ "' codec can't encode "
  let place : Text :=
    if e.stop = e.start + 1 then
      "character '" ++ e.first.byNumber ++ "' in position " ++ Text.ofNat e.start
    else "characters in position " ++ Text.ofNat e.start ++ "-" ++ Text.ofNat (e.stop - 1)
  codec ++ place ++ ": " ++ Text.ofString e.reason

end Courier
