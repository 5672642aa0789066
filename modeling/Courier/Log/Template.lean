/-
**Message templates.**

A report's message is a template whose marks are filled in with values. A mark begins with a
percent sign; then come, all optional, the key of a value in parentheses, flags, a width, and a
precision after a point; a letter ends it and says how the value is written. Two percent signs
stand for one. Values are taken in order, or by key from a single dictionary.

* `Template.fill_plain`: a text without marks stays as it is, where no values are given.
-/
import Courier.Number.Numeral
import Courier.Value.Shown
namespace Courier.Log.Template

/-- Why a template cannot be filled in. -/
inductive Fault
  /-- There are more marks than values. -/
  | notEnough
  /-- There are more values than marks. -/
  | notAll
  /-- A mark with a key needs a dictionary. -/
  | noMapping
  /-- The dictionary lacks a key. -/
  | missingKey (key : Text)
  /-- The key of a mark does not end. -/
  | incompleteKey
  /-- A mark does not end. -/
  | incomplete
  /-- A mark ends with a letter that says nothing. -/
  | unsupported (letter : CodePoint) (position : Nat)
  | widthTooBig
  | precisionTooBig
  /-- A width or a precision is to be taken from a value that is no whole number. -/
  | noWidth
  /-- A width or a precision taken from a value is too large. -/
  | largeWidth
  /-- A value of this kind is no number. -/
  | notReal (letter : CodePoint) (kind : String)
  /-- A value of this kind is no whole number. -/
  | notWhole (letter : CodePoint) (kind : String)
  /-- A value of this kind is no number for a notation with a point. -/
  | notFloat (kind : String)
  /-- No number has no whole part. -/
  | nanWhole
  /-- An infinity has no whole part. -/
  | infiniteWhole
  /-- A whole number is beyond all finite numbers. -/
  | largeWhole
  /-- A value is no character. -/
  | notCharacter
  /-- A number is that of no character. -/
  | noCharacter
  /-- A value has too many digits to be written. -/
  | digits (cause : TooManyDigits)
  deriving DecidableEq

/-- The wording of a fault. -/
def Fault.message : Fault → Text
  | notEnough => "not enough arguments for format string"
  | notAll => "not all arguments converted during string formatting"
  | noMapping => "format requires a mapping"
  | missingKey key => key.quoted
  | incompleteKey => "incomplete format key"
  | incomplete => "incomplete format"
  | unsupported letter position =>
    let shown : CodePoint := if 31 ≤ letter.val && letter.val < 126 then letter else '?'
    "unsupported format character '" ++ [shown] ++ "' (0x" ++ Text.ofHex 1 letter.val ++
      ") at index " ++ Text.ofNat position
  | widthTooBig => "width too big"
  | precisionTooBig => "precision too big"
  | noWidth => "* wants int"
  | largeWidth => "Python int too large to convert to C ssize_t"
  | notReal letter kind =>
    "%" ++ [letter] ++ " format: a real number is required, not " ++ Text.ofString kind
  | notWhole letter kind =>
    "%" ++ [letter] ++ " format: an integer is required, not " ++ Text.ofString kind
  | notFloat kind => "must be real number, not " ++ Text.ofString kind
  | nanWhole => "cannot convert float NaN to integer"
  | infiniteWhole => "cannot convert float infinity to integer"
  | largeWhole => "int too large to convert to float"
  | notCharacter => "%c requires int or char"
  | noCharacter => "%c arg not in range(0x110000)"
  | digits cause => cause.message

/-! ### Values to fill in -/

/-- The values for the marks that follow. -/
structure Supply where
  /-- The dictionary for marks with a key. -/
  mapping : Option Entries
  /-- The values for marks without one, in order. -/
  pending : List Value

/-- The supply of a list of values; a single dictionary with entries serves keys too. -/
def Supply.ofValues : List Value → Supply
  | [.dict (entry :: rest)] => ⟨some (entry :: rest), [.dict (entry :: rest)]⟩
  | values => ⟨none, values⟩

/-- The next value, and the supply after it. -/
def Supply.next (supply : Supply) : Except Fault (Value × Supply) :=
  match supply.pending with
  | [] => .error .notEnough
  | value :: rest => .ok (value, ⟨supply.mapping, rest⟩)

/-- Nothing is left that should have been used. -/
def Supply.isSpent (supply : Supply) : Bool :=
  supply.mapping.isSome || supply.pending.isEmpty

/-! ### Marks -/

/-- What a mark asks for. -/
structure Mark where
  /-- Padding goes to the right. -/
  left : Bool
  /-- Numbers that are not negative have a plus. -/
  plus : Bool
  /-- Numbers that are not negative have a blank for a sign. -/
  blank : Bool
  /-- The fuller form of a number. -/
  full : Bool
  /-- Numbers are padded with zeros. -/
  zeros : Bool
  width : Option Nat
  precision : Option Nat
  letter : CodePoint

/-- The key up to the parenthesis that closes it, and the text after that; `depth` counts the open
parentheses. -/
def readKey (depth : Nat) : Text → Option (Text × Text)
  | [] => none
  | c :: rest =>
    if c = ')' then
      if depth = 0 then some ([], rest)
      else (readKey (depth - 1) rest).map fun (key, after) => (c :: key, after)
    else
      (readKey (if c = '(' then depth + 1 else depth) rest).map fun (key, after) =>
        (c :: key, after)

/-- The supply for a mark that starts here, after its key. -/
def takeKey (supply : Supply) (t : Text) : Except Fault (Supply × Text) :=
  match t with
  | c :: rest =>
    if c = '(' then
      match supply.mapping with
      | none => .error .noMapping
      | some entries =>
        match readKey 0 rest with
        | none => .error .incompleteKey
        | some (key, after) =>
          match Value.get? (.text key) entries with
          | none => .error (.missingKey key)
          | some value => .ok (⟨supply.mapping, [value]⟩, after)
    else .ok (supply, t)
  | [] => .ok (supply, [])

/-- A flag. -/
def isFlag (c : CodePoint) : Bool :=
  c = '-' || c = '+' || c = ' ' || c = '#' || c = '0'

/-- A whole number. -/
def wholeNumber? : Value → Option Int
  | .int i => some i
  | .bool b => some b.toNat
  | _ => none

/-- A number written in digits or taken from the supply, if one stands here. It must not exceed
`limit`. -/
def takeNumber (limit : Nat) (excess : Fault) (supply : Supply) (t : Text) :
    Except Fault (Option Int × Supply × Text) :=
  if t.head? = some (CodePoint.ofChar '*') then
    match supply.next with
    | .error fault => .error fault
    | .ok (value, supply) =>
      match wholeNumber? value with
      | none => .error .noWidth
      | some i => if i.natAbs ≤ limit then .ok (some i, supply, t.drop 1) else .error .largeWidth
  else
    let run := t.takeWhile CodePoint.isAsciiDigit
    if run.isEmpty then .ok (none, supply, t)
    else
      let n := Text.numeral 10 (run.filterMap CodePoint.asciiDigit?)
      if n ≤ limit then .ok (some n, supply, t.drop run.length) else .error excess

/-- The largest width. -/
def maxWidth : Nat :=
  0x7FFFFFFFFFFFFFFF

/-- The largest precision. -/
def maxPrecision : Nat :=
  0x7FFFFFFF

/-- The precision after a point, if there is one; a point alone means zero. -/
def takePrecision (supply : Supply) (t : Text) : Except Fault (Option Nat × Supply × Text) :=
  match t with
  | c :: rest =>
    if c = '.' then
      (takeNumber maxPrecision .precisionTooBig supply rest).map fun (n, supply, after) =>
        (some ((n.getD 0).toNat), supply, after)
    else .ok (none, supply, t)
  | [] => .ok (none, supply, [])

/-- A letter before the last one that says nothing. -/
def isFiller (c : CodePoint) : Bool :=
  c = 'h' || c = 'l' || c = 'L'

/-- Reads a mark after its percent sign. -/
def readMark (supply : Supply) (t : Text) : Except Fault (Mark × Supply × Text) := do
  let (supply, t) ← takeKey supply t
  let flags := t.takeWhile isFlag
  let has (flag : Char) : Bool := flags.contains (CodePoint.ofChar flag)
  let (width, supply, t) ← takeNumber maxWidth .widthTooBig supply (t.drop flags.length)
  let (precision, supply, t) ← takePrecision supply t
  let t := match t with
    | c :: rest => if isFiller c then rest else t
    | [] => []
  match t with
  | [] => .error .incomplete
  | letter :: after =>
    let mark : Mark :=
      { left := has '-' || width.any (· < 0)
        plus := has '+'
        blank := has ' '
        full := has '#'
        zeros := has '0'
        width := width.map Int.natAbs
        precision, letter }
    return (mark, supply, after)

/-! ### Values as they are written -/

/-- A written value: a number has a sign and perhaps a mark of its base before its digits. -/
structure Written where
  numeric : Bool
  sign : Text
  base : Text
  body : Text

/-- A text that is no number. -/
def Written.plain (t : Text) : Written :=
  ⟨false, [], [], t⟩

/-- A written value in its field. -/
def pad (mark : Mark) (w : Written) : Text :=
  let sign : Text :=
    if !w.numeric || !w.sign.isEmpty then w.sign
    else if mark.plus then "+"
    else if mark.blank then " "
    else ""
  let missing := mark.width.getD 0 - (sign.length + w.base.length + w.body.length)
  let fill (c : Char) : Text := List.replicate missing (CodePoint.ofChar c)
  if mark.left then sign ++ w.base ++ w.body ++ fill ' '
  else if w.numeric && mark.zeros then sign ++ w.base ++ fill '0' ++ w.body
  else fill ' ' ++ sign ++ w.base ++ w.body

/-- ASCII letters as capitals. -/
def capitals (t : Text) : Text :=
  t.map fun c => if 0x61 ≤ c.val && c.val ≤ 0x7A then CodePoint.ofNat (c.val - 0x20) else c

/-- A text with every code point that is not ASCII written by its number. -/
def asciiOnly (t : Text) : Text :=
  t.flatMap fun c => if c.isAscii then [c] else c.byNumber

/-- A value as a text, cut to the precision. -/
def writeText (mark : Mark) (value : Value) : Except Fault Written :=
  let shown :=
    if mark.letter = 's' then value.toText
    else if mark.letter = 'r' then value.shown
    else value.shown.map asciiOnly
  match shown with
  | .error cause => .error (.digits cause)
  | .ok t => .ok (.plain (match mark.precision with
    | some n => t.take n
    | none => t))

/-- The whole number to be written by a mark. -/
def wholeOf (mark : Mark) (value : Value) : Except Fault Int :=
  let decimal := mark.letter = 'd' || mark.letter = 'i' || mark.letter = 'u'
  match value with
  | .int i => .ok i
  | .bool b => .ok b.toNat
  | .float x =>
    if !decimal then .error (.notWhole mark.letter value.kind)
    else
      match x with
      | .nan => .error .nanWhole
      | .infinite _ => .error .infiniteWhole
      | .finite negative units => .ok (Binary64.signedUnits negative (units / unitsPerOne))
  | _ =>
    .error (if decimal then .notReal mark.letter value.kind else .notWhole mark.letter value.kind)

/-- The magnitude of a whole number in the base of a mark. -/
def magnitudeText (letter : CodePoint) (i : Int) : Except Fault Text :=
  let inBase (base : Nat) : Text := (Nat.toDigits base i.natAbs).map CodePoint.ofChar
  if letter = 'o' then .ok (inBase 8)
  else if letter = 'x' then .ok (inBase 16)
  else if letter = 'X' then .ok (capitals (inBase 16))
  else
    match writeInt (i.natAbs : Int) with
    | .ok t => .ok t
    | .error cause => .error (.digits cause)

/-- A whole number, with zeros up to the precision. -/
def writeWhole (mark : Mark) (value : Value) : Except Fault Written := do
  let i ← wholeOf mark value
  let digits ← magnitudeText mark.letter i
  let marked := mark.letter = 'o' || mark.letter = 'x' || mark.letter = 'X'
  return {
    numeric := true
    sign := Numeral.signOf (i < 0)
    base := if mark.full && marked then [CodePoint.ofChar '0', mark.letter] else []
    body := Text.padLeft '0' (mark.precision.getD 0) digits }

/-- The number to be written with a point. -/
def floatOf (value : Value) : Except Fault Binary64 :=
  match value with
  | .float x => .ok x
  | .bool b => .ok (.ofInt b.toNat)
  | .int i => if (Binary64.ofInt i).isFinite then .ok (.ofInt i) else .error .largeWhole
  | _ => .error (.notFloat value.kind)

/-- A number with a point, with six digits unless the precision says otherwise. -/
def writeFloat (mark : Mark) (value : Value) : Except Fault Written :=
  (floatOf value).map fun x =>
    let digits := mark.precision.getD 6
    let capital := mark.letter = 'E' || mark.letter = 'F' || mark.letter = 'G'
    let written :=
      if mark.letter = 'e' || mark.letter = 'E' then Numeral.scientific mark.full digits x
      else if mark.letter = 'f' || mark.letter = 'F' then Numeral.fixed mark.full digits x
      else Numeral.general mark.full digits x
    ⟨true, written.sign, [], if capital then capitals written.digits else written.digits⟩

/-- A character, given as such or by its number. -/
def writeCharacter (value : Value) : Except Fault Written :=
  match value with
  | .text [c] => .ok (.plain [c])
  | value =>
    match wholeNumber? value with
    | none => .error .notCharacter
    | some i =>
      if i < 0 || 0x110000 ≤ i then .error .noCharacter
      else .ok (.plain [CodePoint.ofNat i.toNat])

/-- The letters of marks for texts. -/
def textLetters : Text :=
  "sra"

/-- The letters of marks for whole numbers. -/
def wholeLetters : Text :=
  "diuoxX"

/-- The letters of marks for numbers with a point. -/
def floatLetters : Text :=
  "eEfFgG"

/-- A value as a mark asks for it; `position` is where the mark ends. -/
def write (mark : Mark) (position : Nat) (value : Value) : Except Fault Written :=
  if textLetters.contains mark.letter then writeText mark value
  else if wholeLetters.contains mark.letter then writeWhole mark value
  else if floatLetters.contains mark.letter then writeFloat mark value
  else if mark.letter = 'c' then writeCharacter value
  else .error (.unsupported mark.letter position)

/-! ### Filling in -/

/-- Fills in the marks of a text; `size` is the length of the whole template. -/
def fillFrom (size : Nat) (supply : Supply) (t : Text) : Except Fault Text :=
  match t with
  | [] => if supply.isSpent then .ok [] else .error .notAll
  | c :: rest =>
    if c = '%' then
      if rest.head? = some (CodePoint.ofChar '%') then
        return CodePoint.ofChar '%' :: (← fillFrom size supply (rest.drop 1))
      else do
        let (mark, supply, after) ← readMark supply rest
        let (value, supply) ← supply.next
        let written ← write mark (size - after.length - 1) value
        if _ : after.length < (c :: rest).length then
          return pad mark written ++ (← fillFrom size supply after)
        else .error .incomplete
    else return c :: (← fillFrom size supply rest)
termination_by t.length
decreasing_by
  · exact Nat.lt_succ_of_le (by simp)
  · assumption
  · exact Nat.lt_succ_self _

/-- Fills in a template. Without values it is taken as it is, marks and all. -/
def fill (template : Text) (values : List Value) : Except Fault Text :=
  if values.isEmpty then .ok template
  else fillFrom template.length (.ofValues values) template

theorem fill_plain (template : Text) : fill template [] = .ok template :=
  rfl

end Courier.Log.Template
