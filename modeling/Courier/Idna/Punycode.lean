/-
**Punycode.**

A label with code points beyond ASCII is written in ASCII: first its ASCII code points, then, after
a hyphen, one number for each other code point, in order of the code points, that says how far to
advance before inserting it. The numbers are written in a base of 36 with thresholds that adapt.

* `Punycode.encode_ascii`: an ASCII text is followed by a hyphen and no numbers.
-/
import Courier.Text.Basic
namespace Courier.Punycode

/-- The threshold of the digit at place `k`. -/
def threshold (k bias : Nat) : Nat :=
  max 1 (min 26 (36 * (k + 1) - bias))

/-- Divides until at most 455 is left, and adds 36 for each division; `fuel` bounds them. -/
def reduce (fuel divisions delta : Nat) : Nat :=
  match fuel with
  | 0 => divisions + 36 * delta / (delta + 38)
  | fuel + 1 =>
    if 455 < delta then reduce fuel (divisions + 36) (delta / 35)
    else divisions + 36 * delta / (delta + 38)

/-- The bias after a number, when `count` code points are placed. -/
def adapt (delta count : Nat) (first : Bool) : Nat :=
  let damped := if first then delta / 700 else delta / 2
  let scaled := damped + damped / count
  reduce scaled 0 scaled

/-- The character of a digit below 36. -/
def digitChar (d : Nat) : CodePoint :=
  CodePoint.ofNat (if d < 26 then 0x61 + d else 0x30 + (d - 26))

/-- The value of a digit, in either case. -/
def digitValue? (c : CodePoint) : Option Nat :=
  if 0x41 ≤ c.val && c.val ≤ 0x5A then some (c.val - 0x41)
  else if 0x61 ≤ c.val && c.val ≤ 0x7A then some (c.val - 0x61)
  else if c.isAsciiDigit then some (c.val - 0x30 + 26)
  else none

/-- The digits of a number from place `k` on; `fuel` bounds their number. -/
def writeNumber (fuel k bias n : Nat) : Text :=
  match fuel with
  | 0 => []
  | fuel + 1 =>
    let t := threshold k bias
    if n < t then [digitChar n]
    else digitChar (t + (n - t) % (36 - t)) :: writeNumber fuel (k + 1) bias ((n - t) / (36 - t))

/-- Where the writer stands between two code points. -/
structure Writer where
  /-- The distance advanced since the last number. -/
  delta : Nat
  bias : Nat
  /-- How many code points are placed. -/
  placed : Nat
  first : Bool
  /-- What is written so far. -/
  written : Text

/-- Passes one code point of the text while those equal to `point` are placed. -/
def Writer.pass (point : Nat) (w : Writer) (c : CodePoint) : Writer :=
  if c.val < point then { w with delta := w.delta + 1 }
  else if c.val = point then
    { delta := 0
      bias := adapt w.delta (w.placed + 1) w.first
      placed := w.placed + 1
      first := false
      written := w.written ++ writeNumber (w.delta + 1) 0 w.bias w.delta }
  else w

/-- Places all code points of the text that equal one of `points`, which ascend; `next` is the
least code point not yet looked at. -/
def place (t : Text) (next : Nat) (w : Writer) : List Nat → Writer
  | [] => w
  | point :: rest =>
    let advanced := { w with delta := w.delta + (point - next) * (w.placed + 1) }
    let passed := t.foldl (Writer.pass point) advanced
    place t (point + 1) { passed with delta := passed.delta + 1 } rest

/-- Inserts a number into an ascending list, once. -/
def insertOnce (n : Nat) : List Nat → List Nat
  | [] => [n]
  | m :: rest => if n < m then n :: m :: rest else if n = m then m :: rest else m :: insertOnce n rest

/-- The code points beyond ASCII, ascending, each once. -/
def extended (t : Text) : List Nat :=
  t.foldl (fun found c => if c.isAscii then found else insertOnce c.val found) []

/-- The text in Punycode. -/
def encode (t : Text) : Text :=
  let base := t.filter CodePoint.isAscii
  let start : Writer := ⟨0, 72, base.length, true, []⟩
  let numbers := (place t 0x80 start (extended t)).written
  if base.isEmpty then numbers else base ++ "-" ++ numbers

/-- Reads a number from place `k` on: its value, and the text after it. -/
def readNumber (bias : Nat) (k weight value : Nat) : Text → Option (Nat × Text)
  | [] => none
  | c :: rest =>
    match digitValue? c with
    | none => none
    | some digit =>
      let t := threshold k bias
      if digit < t then some (value + digit * weight, rest)
      else readNumber bias (k + 1) (weight * (36 - t)) (value + digit * weight) rest

/-- Inserts the code points that the numbers name; `fuel` bounds their count. -/
def insertAll (fuel : Nat) (base : Text) (point place bias : Nat) (first : Bool) (t : Text) :
    Option Text :=
  match fuel with
  | 0 => some base
  | fuel + 1 =>
    if t.isEmpty then some base
    else
      match readNumber bias 0 1 0 t with
      | none => none
      | some (delta, rest) =>
        let point := point + (place + delta) / (base.length + 1)
        let place := (place + delta) % (base.length + 1)
        if 0x10FFFF < point then none
        else
          let grown := base.take place ++ CodePoint.ofNat point :: base.drop place
          insertAll fuel grown point (place + 1) (adapt delta grown.length first) false rest

/-- The text that ASCII text in Punycode stands for. -/
def decode? (t : Text) : Option Text :=
  match t.cutLast '-' with
  | (base, numbers) => insertAll numbers.length (base.getD []) 0x80 0 72 true numbers

theorem encode_ascii {t : Text} (ascii : ∀ c ∈ t, c.isAscii) (some : t ≠ []) :
    encode t = t ++ Text.ofString "-" := by
  have base : t.filter CodePoint.isAscii = t := List.filter_eq_self.mpr ascii
  have nothing : extended t = [] := by
    unfold extended
    induction t with
    | nil => rfl
    | cons c rest ih =>
      have head : c.isAscii := ascii c (by simp)
      simp only [List.foldl_cons, head, if_true]
      cases rest with
      | nil => rfl
      | cons d others =>
        exact ih (fun e mem => ascii e (by simp [List.mem_cons.mp mem])) (by simp)
          (List.filter_eq_self.mpr fun e mem => ascii e (by simp [List.mem_cons.mp mem]))
  simp [encode, base, nothing, place, some]

end Courier.Punycode
