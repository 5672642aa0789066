/-
**Operations on text.**

Cutting, joining and trimming, each by its rule on the list of code points.

* `Text.join_splitOn`: the pieces between separators, put together again, are the text.
* `Text.splitOn_append`: a separator ends the pieces of what precedes it.
* `Text.length_splitOn_pos`: there is always a first piece.
-/
import Courier.Text.CodePoint
namespace Courier

namespace Text

/-- The code points of a string. -/
def ofString (s : String) : Text :=
  s.toList.map CodePoint.ofChar

instance : Coe String Text := ⟨ofString⟩

/-- The string of a text that holds no surrogate. -/
def toString? (t : Text) : Option String :=
  (t.mapM CodePoint.toChar?).map String.ofList

/-- The pieces between the separators, in order; there is one more piece than separators. -/
def splitOn (separator : CodePoint) : Text → List Text
  | [] => [[]]
  | c :: rest =>
    if c = separator then [] :: splitOn separator rest
    else
      match splitOn separator rest with
      | [] => [[c]]
      | piece :: pieces => (c :: piece) :: pieces

/-- The pieces with the separator text between them. -/
def join (separator : Text) : List Text → Text
  | [] => []
  | [piece] => piece
  | piece :: pieces => piece ++ separator ++ join separator pieces

theorem splitOn_ne_nil (separator : CodePoint) (t : Text) : splitOn separator t ≠ [] := by
  cases t with
  | nil => simp [splitOn]
  | cons c rest =>
    unfold splitOn
    split
    · simp
    · split <;> simp

theorem length_splitOn_pos (separator : CodePoint) (t : Text) :
    0 < (splitOn separator t).length :=
  List.length_pos_iff.mpr (splitOn_ne_nil separator t)

theorem join_cons_head (separator piece : Text) (c : CodePoint) (pieces : List Text) :
    join separator ((c :: piece) :: pieces) = c :: join separator (piece :: pieces) := by
  cases pieces <;> simp [join]

theorem join_splitOn (separator : CodePoint) (t : Text) :
    join [separator] (splitOn separator t) = t := by
  induction t with
  | nil => rfl
  | cons c rest ih =>
    unfold splitOn
    split
    · rename_i same
      subst same
      cases pieces : splitOn c rest with
      | nil => exact absurd pieces (splitOn_ne_nil c rest)
      | cons piece others =>
        rw [pieces] at ih
        simp [join, ih]
    · cases pieces : splitOn separator rest with
      | nil => exact absurd pieces (splitOn_ne_nil separator rest)
      | cons piece others =>
        rw [pieces] at ih
        simp [join_cons_head, ih]

theorem splitOn_append (separator : CodePoint) (t rest : Text) :
    splitOn separator (t ++ separator :: rest) = splitOn separator t ++ splitOn separator rest := by
  induction t with
  | nil => simp [splitOn]
  | cons c others ih =>
    rw [List.cons_append, splitOn, splitOn, ih]
    split
    · rfl
    · cases pieces : splitOn separator others with
      | nil => exact absurd pieces (splitOn_ne_nil separator others)
      | cons piece more => rfl

/-- The text before the first separator, and the text after it if there is one. -/
def cut (separator : CodePoint) (t : Text) : Text × Option Text :=
  match t.dropWhile (· != separator) with
  | [] => (t, none)
  | _ :: rest => (t.takeWhile (· != separator), some rest)

/-- The text before the last separator if there is one, and the text after it. -/
def cutLast (separator : CodePoint) (t : Text) : Option Text × Text :=
  match cut separator t.reverse with
  | (tail, none) => (none, tail.reverse)
  | (tail, some before) => (some before.reverse, tail.reverse)

/-- Without the leading code points that satisfy `p`. -/
def trimLeft (p : CodePoint → Bool) (t : Text) : Text :=
  t.dropWhile p

/-- Without the trailing code points that satisfy `p`. -/
def trimRight (p : CodePoint → Bool) (t : Text) : Text :=
  (t.reverse.dropWhile p).reverse

/-- Without the code points at either end that satisfy `p`. -/
def trim (p : CodePoint → Bool) (t : Text) : Text :=
  trimRight p (trimLeft p t)

/-- What remains after `start`, if the text starts with it. -/
def dropStart? (start : Text) (t : Text) : Option Text :=
  if start.isPrefixOf t then some (t.drop start.length) else none

/-- ASCII capitals become small. -/
def toAsciiLower (t : Text) : Text :=
  t.map CodePoint.toAsciiLower

/-- Decimal text of a natural number. -/
def ofNat (n : Nat) : Text :=
  (Nat.toDigits 10 n).map CodePoint.ofChar

/-- Decimal text of an integer, with a minus sign if it is negative. -/
def ofInt (i : Int) : Text :=
  if i < 0 then ('-' : CodePoint) :: ofNat i.natAbs else ofNat i.natAbs

/-- `t`, with `fill` before it where it is shorter than `width`. -/
def padLeft (fill : CodePoint) (width : Nat) (t : Text) : Text :=
  List.replicate (width - t.length) fill ++ t

/-- `t`, with `fill` after it where it is shorter than `width`. -/
def padRight (fill : CodePoint) (width : Nat) (t : Text) : Text :=
  t ++ List.replicate (width - t.length) fill

/-- A number in lower-case hexadecimal with at least `width` digits. -/
def ofHex (width n : Nat) : Text :=
  padLeft '0' width ((Nat.toDigits 16 n).map CodePoint.ofChar)

/-- A number in upper-case hexadecimal with at least `width` digits. -/
def ofUpperHex (width n : Nat) : Text :=
  padLeft '0' width ((Nat.toDigits 16 n).map fun c => CodePoint.ofChar c.toUpper)

/-- The value of a numeral in the given base, most significant digit first. -/
def numeral (base : Nat) (digits : List Nat) : Nat :=
  digits.foldl (fun value digit => value * base + digit) 0

end Text

end Courier
