/-
**Values of settings.**

A setting is given as a value of any kind, most often as a text. Each kind of setting takes the
values that can only mean one thing: a whole number may be written with a sign, with underscores
between its digits and with a fraction of zeros, a truth value has a few words. What is refused is
refused for a reason with a code and a wording.

* `Coercion.toText_ok`: a text is taken as it is.
* `Coercion.toWhole_ok`: so is a whole number.
-/
import Courier.Number.Integer
import Courier.Text.Blank
import Courier.Value.Basic
namespace Courier.Coercion

/-- Why a value is refused. -/
inductive Fault
  /-- A text that is no whole number. -/
  | wholeNumberText
  /-- A whole number with too many digits. -/
  | wholeNumberSize
  /-- A number with a fraction where a whole one is wanted. -/
  | fraction
  /-- An infinity or no number where a whole number is wanted. -/
  | notFinite
  /-- A value of another kind where a whole number is wanted. -/
  | wholeNumber
  /-- A text that is no number. -/
  | numberText
  /-- A value of another kind where a number is wanted. -/
  | number
  /-- A text or a number that is no truth value. -/
  | truthText
  /-- A value of another kind where a truth value is wanted. -/
  | truth
  /-- A value of another kind where a text is wanted. -/
  | text
  /-- Bytes that are no text. -/
  | textBytes
  deriving DecidableEq

/-- The code of a reason. -/
def Fault.code : Fault → String
  | wholeNumberText => "int_parsing"
  | wholeNumberSize => "int_parsing_size"
  | fraction => "int_from_float"
  | notFinite => "finite_number"
  | wholeNumber => "int_type"
  | numberText => "float_parsing"
  | number => "float_type"
  | truthText => "bool_parsing"
  | truth => "bool_type"
  | text => "string_type"
  | textBytes => "string_unicode"

/-- The wording of a reason. -/
def Fault.message : Fault → String
  | wholeNumberText => "Input should be a valid integer, unable to parse string as an integer"
  | wholeNumberSize => "Unable to parse input string as an integer, exceeded maximum size"
  | fraction => "Input should be a valid integer, got a number with a fractional part"
  | notFinite => "Input should be a finite number"
  | wholeNumber => "Input should be a valid integer"
  | numberText => "Input should be a valid number, unable to parse string as a number"
  | number => "Input should be a valid number"
  | truthText => "Input should be a valid boolean, unable to interpret input"
  | truth => "Input should be a valid boolean"
  | text => "Input should be a valid string"
  | textBytes => "Input should be a valid string, unable to parse raw data as a unicode string"

/-! ### Whole numbers -/

/-- The most digits that are read. -/
def maxDigits : Nat :=
  4300

/-- Reads an optional minus and digits without leading zeros. A run of too many digits is refused
for its length, whatever follows it. -/
def plainWhole (t : Text) : Except Fault Int :=
  let (negative, unsigned) := match t with
    | c :: rest => if c = '-' then (true, rest) else (false, t)
    | [] => (false, [])
  let run := unsigned.takeWhile CodePoint.isAsciiDigit
  let after := unsigned.drop run.length
  let leadingZero := run.head? = some (CodePoint.ofChar '0') && run.length != 1
  if run.isEmpty || leadingZero then .error .wholeNumberText
  else if maxDigits < run.length then .error .wholeNumberSize
  else if !after.isEmpty then .error .wholeNumberText
  else
    let magnitude : Int := Text.numeral 10 (run.filterMap CodePoint.asciiDigit?)
    .ok (if negative then -magnitude else magnitude)

/-- Without a plus, which no minus may follow. -/
def dropPlus? (t : Text) : Option Text :=
  match t with
  | c :: d :: rest =>
    if c = '+' then if d = '-' then none else some (d :: rest) else some t
  | _ => some t

/-- A zero or an underscore. -/
def isFiller (c : CodePoint) : Bool :=
  c = '0' || c = '_'

/-- Without leading zeros and the underscores among them; the last zero stays where no digit
follows it. A negative number is left as it is. -/
def dropZeros? (t : Text) : Option Text :=
  match t with
  | [] => none
  | c :: _ =>
    if c = '-' then some t
    else if !c.isAsciiDigit then none
    else if c != '0' then some t
    else
      let filler := t.takeWhile isFiller
      match t.drop filler.length with
      | [] => some (filler.drop (filler.length - 1))
      | d :: rest =>
        if d.isAsciiDigit then some (d :: rest)
        else if d = '.' then some (filler.drop (filler.length - 1) ++ d :: rest)
        else none

/-- Without a fraction of zeros. -/
def dropZeroFraction (t : Text) : Text :=
  match t.cut '.' with
  | (whole, some fraction) =>
    if !fraction.isEmpty && fraction.all (· == CodePoint.ofChar '0') then whole else t
  | (_, none) => t

/-- Without its underscores, if it has any, all of them single and none at either end. -/
def dropUnderscores? (t : Text) : Option Text :=
  let groups := Text.splitOn '_' t
  if groups.length < 2 || groups.any List.isEmpty then none else some groups.flatten

/-- The whole number that a text denotes. -/
def wholeOfText (t : Text) : Except Fault Int :=
  match plainWhole t with
  | .ok i => .ok i
  | .error .wholeNumberSize => .error .wholeNumberSize
  | .error _ =>
    match (dropPlus? (t.trim CodePoint.isWhite)).bind dropZeros? with
    | none => .error .wholeNumberText
    | some cleaned =>
      let whole := dropZeroFraction cleaned
      plainWhole ((dropUnderscores? whole).getD whole)

/-- The whole number that a number is; very large ones are refused. -/
def wholeOfNumber (x : Binary64) : Except Fault Int :=
  if !x.isFinite then .error .notFinite
  else
    match x.toInt? with
    | none => .error .fraction
    | some i => if i.natAbs < wordLimit then .ok i else .error .wholeNumberSize

/-- A text, or bytes that are one; none for other kinds of value. -/
def textual? (fault : Fault) : Value → Option (Except Fault Text)
  | .text t => some (.ok t)
  | .bytes b =>
    match Utf8.decode? b with
    | some t => some (.ok t)
    | none => some (.error fault)
  | _ => none

/-- The whole number that a value means. -/
def toWhole (value : Value) : Except Fault Int :=
  match textual? .wholeNumberText value with
  | some t => t.bind wholeOfText
  | none =>
    match value with
    | .int i => .ok i
    | .bool b => .ok b.toNat
    | .float x => wholeOfNumber x
    | _ => .error .wholeNumber

/-! ### Numbers -/

/-- Digits and nothing else; there may be none. -/
def digits? (t : Text) : Option (List Nat) :=
  t.mapM CodePoint.asciiDigit?

/-- The power of ten after an exponent mark. -/
def power? (t : Text) : Option Int :=
  let (negative, unsigned) := Integer.sign t
  if unsigned.isEmpty then none
  else (digits? unsigned).map fun digits =>
    let magnitude : Int := Text.numeral 10 digits
    if negative then -magnitude else magnitude

/-- The decimal of an unsigned numeral: digits with an optional point, and an optional power of
ten. -/
def decimal? (negative : Bool) (t : Text) : Option Decimal := do
  let mark (c : CodePoint) : Bool := c = 'e' || c = 'E'
  let mantissa : Text := t.takeWhile fun c => !mark c
  let power ← match t.drop mantissa.length with
    | [] => some 0
    | _ :: rest => power? rest
  let (whole, fraction) := mantissa.cut '.'
  let whole ← digits? whole
  let fraction ← digits? (fraction.getD [])
  if whole.isEmpty && fraction.isEmpty then none
  else some ⟨negative, Text.numeral 10 (whole ++ fraction), power - fraction.length⟩

/-- The number that a text without blanks denotes. -/
def plainNumber? (t : Text) : Option Binary64 :=
  let (negative, unsigned) := Integer.sign t
  let word := Text.toAsciiLower unsigned
  if word = "inf" || word = "infinity" then some (.infinite negative)
  else if word = "nan" then some .nan
  else (decimal? negative unsigned).map Decimal.toBinary64

/-- The number that a text denotes: trimmed, or with underscores and without blanks. -/
def numberOfText (t : Text) : Except Fault Binary64 :=
  match plainNumber? (t.trim CodePoint.isWhite) with
  | some x => .ok x
  | none =>
    match (dropUnderscores? t).bind plainNumber? with
    | some x => .ok x
    | none => .error .numberText

/-- The number that a value means; a whole number beyond all finite numbers is refused. -/
def toNumber (value : Value) : Except Fault Binary64 :=
  match textual? .numberText value with
  | some t => t.bind numberOfText
  | none =>
    match value with
    | .float x => .ok x
    | .bool b => .ok (.ofInt b.toNat)
    | .int i => if (Binary64.ofInt i).isFinite then .ok (.ofInt i) else .error .number
    | _ => .error .number

/-! ### Truth values -/

/-- The words for a true value. -/
def trueWords : List String :=
  ["1", "t", "y", "on", "yes", "true"]

/-- The words for a false value. -/
def falseWords : List String :=
  ["0", "f", "n", "no", "off", "false"]

/-- The truth value that a text denotes, in small letters or capitals. -/
def truthOfText (t : Text) : Except Fault Bool :=
  let isWord (word : String) : Bool := Text.ofString word == t.toAsciiLower
  if trueWords.any isWord then .ok true
  else if falseWords.any isWord then .ok false
  else .error .truthText

/-- The truth value that a whole number means. -/
def truthOfWhole (i : Int) : Except Fault Bool :=
  if i = 0 then .ok false
  else if i = 1 then .ok true
  else .error .truthText

/-- The truth value that a value means; numbers beyond a machine word have none, not even a
refused one. -/
def toTruth (value : Value) : Except Fault Bool :=
  match textual? .truthText value with
  | some t => t.bind truthOfText
  | none =>
    match value with
    | .bool b => .ok b
    | .int i => if -wordLimit ≤ i && i < wordLimit then truthOfWhole i else .error .truth
    | .float x =>
      match wholeOfNumber x with
      | .ok i => truthOfWhole i
      | .error _ => .error .truth
    | _ => .error .truth

/-! ### Texts -/

/-- The text that a value is. -/
def toText (value : Value) : Except Fault Text :=
  (textual? .textBytes value).getD (.error .text)

/-- The text that a value is, or nothing. -/
def toOptionalText : Value → Except Fault (Option Text)
  | .null => .ok none
  | value => (toText value).map some

theorem toText_ok (t : Text) : toText (.text t) = .ok t :=
  rfl

theorem toWhole_ok (i : Int) : toWhole (.int i) = .ok i :=
  rfl

end Courier.Coercion
