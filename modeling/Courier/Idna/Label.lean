/-
**Labels of a host name.**

A label that holds code points beyond ASCII is permitted only if it is in Normalization Form C, has
hyphens in no forbidden place, starts with no mark, holds only permitted code points, each where
its context allows it, and keeps the rule for writing directions. The first rule that is broken, in
this order, is the fault.
-/
import Courier.Idna.Composition
import Courier.Idna.Direction
import Courier.Idna.Permitted
import Courier.Idna.Punycode
import Courier.Idna.Script
import Courier.Text.Quoted
namespace Courier.Idna

/-- How a label breaks the rule for writing directions. -/
inductive DirectionFault
  | unknown (label : Text) (position : Nat)
  | start (label : Text)
  | inRightToLeft (position : Nat)
  | mixedNumbers
  | inLeftToRight (position : Nat)
  | ending
  deriving DecidableEq

/-- Why a host name or label is not valid. -/
inductive Fault
  | emptyDomain
  | domainTooLong
  | emptyLabel
  | labelTooLong
  | notNormalized
  | hyphenPair
  | hyphenAtEnd
  | startsWithMark
  | notPermitted (point : CodePoint) (position : Nat) (label : Text)
  | joinerNeighbour (point : CodePoint) (position : Nat) (label : Text)
  | misplaced (point : CodePoint) (position : Nat) (label : Text)
  | direction (fault : DirectionFault)
  | nothingEncoded
  | encodedHyphenAtEnd
  | badPunycode
  deriving DecidableEq

/-- The wording for a broken rule of directions. -/
def DirectionFault.message : DirectionFault → Text
  | unknown label position =>
    "Unknown directionality in label " ++ label.quoted ++ " at position " ++ Text.ofNat position
  | start label =>
    "First codepoint in label " ++ label.quoted ++ " must be directionality L, R or AL"
  | inRightToLeft position =>
    "Invalid direction for codepoint at position " ++ Text.ofNat position ++
      " in a right-to-left label"
  | mixedNumbers => "Can not mix numeral types in a right-to-left label"
  | inLeftToRight position =>
    "Invalid direction for codepoint at position " ++ Text.ofNat position ++
      " in a left-to-right label"
  | ending => "Label ends with illegal codepoint directionality"

/-- A code point by its number. -/
def pointName (c : CodePoint) : Text :=
  "U+" ++ Text.ofUpperHex 4 c.val

/-- The wording of a fault. -/
def Fault.message : Fault → Text
  | emptyDomain => "Empty domain"
  | domainTooLong => "Domain too long"
  | emptyLabel => "Empty Label"
  | labelTooLong => "Label too long"
  | notNormalized => "Label must be in Normalization Form C"
  | hyphenPair => "Label has disallowed hyphens in 3rd and 4th position"
  | hyphenAtEnd => "Label must not start or end with a hyphen"
  | startsWithMark => "Label begins with an illegal combining character"
  | notPermitted point position label =>
    "Codepoint " ++ pointName point ++ " at position " ++ Text.ofNat position ++ " of " ++
      label.quoted ++ " not allowed"
  | joinerNeighbour point position label =>
    "Unknown codepoint adjacent to joiner " ++ pointName point ++ " at position " ++
      Text.ofNat position ++ " in " ++ label.quoted
  | misplaced point position label =>
    "Codepoint " ++ pointName point ++ " not allowed at position " ++ Text.ofNat position ++
      " in " ++ label.quoted
  | direction fault => fault.message
  | nothingEncoded => "Malformed A-label, no Punycode eligible content found"
  | encodedHyphenAtEnd => "A-label must not end with a hyphen"
  | badPunycode => "Invalid A-label"

/-- The first code point of a text lies in the ranges. -/
def startsIn (ranges : List (Nat × Nat)) (t : Text) : Bool :=
  match t with
  | [] => false
  | c :: _ => inRanges ranges c.val

/-- Past the code points that are joined over, a joining letter follows. -/
def joins (ranges : List (Nat × Nat)) (t : Text) : Bool :=
  startsIn ranges (t.dropWhile fun c => inRanges transparentRanges c.val)

/-- Whether a joiner may stand between `before` (nearest first) and `after`. It may not if the
neighbour before it is too new to tell. -/
def joinerAllows (point : CodePoint) (before after : Text) : Bool :=
  match before with
  | [] => false
  | c :: _ =>
    if combiningClass c.val = 0 && directionOf c.val = .unassigned then false
    else combiningClass c.val = viramaClass ||
      (point.val = 0x200C && joins joinsForwardRanges before && joins joinsBackwardRanges after)

/-- Whether a code point in context may stand between `before` (nearest first) and `after`. -/
def contextAllows (point : CodePoint) (before after : Text) : Bool :=
  let n := point.val
  let label := before ++ after
  if n = 0x00B7 then startsIn [(0x6C, 0x6C)] before && startsIn [(0x6C, 0x6C)] after
  else if n = 0x0375 then startsIn greekRanges after
  else if n = 0x05F3 || n = 0x05F4 then startsIn hebrewRanges before
  else if n = 0x30FB then
    label.any fun c => c.val != 0x30FB && inRanges japaneseRanges c.val
  else if n ≤ 0x0669 then !label.any fun c => 0x06F0 ≤ c.val && c.val ≤ 0x06F9
  else !label.any fun c => 0x0660 ≤ c.val && c.val ≤ 0x0669

/-- Checks the code points of `label` from `after` on; `before` holds those before it, nearest
first. -/
def checkPoints (label before : Text) : Text → Except Fault Unit
  | [] => .ok ()
  | c :: after =>
    let position := before.length + 1
    if isPermitted c.val then checkPoints label (c :: before) after
    else if isJoiner c.val then
      if joinerAllows c before after then checkPoints label (c :: before) after
      else .error (.joinerNeighbour c position label)
    else if isContextual c.val then
      if contextAllows c before after then checkPoints label (c :: before) after
      else .error (.misplaced c position label)
    else .error (.notPermitted c position label)

/-- Checks directions in a right-to-left label; `number` is the kind of number met so far. -/
def checkRightToLeft (position : Nat) (number : Option Direction) :
    List Direction → Except DirectionFault Unit
  | [] => .ok ()
  | d :: rest =>
    if !(d.isRightToLeft || d.isNeutral) then .error (.inRightToLeft position)
    else if d = .arabicNumber || d = .europeanNumber then
      match number with
      | none => checkRightToLeft (position + 1) (some d) rest
      | some other =>
        if other = d then checkRightToLeft (position + 1) number rest
        else .error .mixedNumbers
    else checkRightToLeft (position + 1) number rest

/-- Checks directions in a left-to-right label. -/
def checkLeftToRight (position : Nat) : List Direction → Except DirectionFault Unit
  | [] => .ok ()
  | d :: rest =>
    if d = .left || d.isNeutral then checkLeftToRight (position + 1) rest
    else .error (.inLeftToRight position)

/-- The last code point that is no mark has one of the directions a label may end with. -/
def endsWith (allowed : Direction → Bool) (directions : List Direction) : Bool :=
  match directions.reverse.dropWhile (· = .mark) with
  | [] => false
  | d :: _ => allowed d

/-- The rule for writing directions. -/
def checkDirections (label : Text) : Except DirectionFault Unit :=
  let directions := label.map fun c => directionOf c.val
  match directions.findIdx? (· = .unassigned) with
  | some index => .error (.unknown label (index + 1))
  | none =>
    if !directions.any Direction.isRightToLeft then .ok ()
    else
      match directions.head? with
      | some .right | some .arabicLetter => do
        checkRightToLeft 1 none directions
        if endsWith (fun d => d.isRightToLeft || d = .europeanNumber) directions then .ok ()
        else .error .ending
      | some .left => do
        checkLeftToRight 1 directions
        if endsWith (fun d => d = .left || d = .europeanNumber) directions then .ok ()
        else .error .ending
      | _ => .error (.start label)

/-- All rules for a label, in order. -/
def checkLabel (label : Text) : Except Fault Unit :=
  match label with
  | [] => .error .emptyLabel
  | first :: _ =>
    if 254 < label.length then .error .labelTooLong
    else if !isNormalized (label.map (·.val)) then .error .notNormalized
    else if (label.drop 2).take 2 = ("--" : Text) then .error .hyphenPair
    else if first = '-' || label.getLast? = some (CodePoint.ofChar '-') then .error .hyphenAtEnd
    else if isMark first.val then .error .startsWithMark
    else
      match checkPoints label [] label with
      | .error fault => .error fault
      | .ok () =>
        match checkDirections label with
        | .error fault => .error (.direction fault)
        | .ok () => .ok ()

/-- The mark of an encoded label. -/
def encodedMark : Text :=
  "xn--"

/-- The label that an ASCII label stands for. -/
def decodeLabel (ascii : Text) : Except Fault Text :=
  let label := ascii.toAsciiLower
  match Text.dropStart? encodedMark label with
  | none => (checkLabel label).map fun _ => label
  | some [] => .error .nothingEncoded
  | some content =>
    if content.getLast? = some (CodePoint.ofChar '-') then .error .encodedHyphenAtEnd
    else
      match Punycode.decode? content with
      | none => .error .badPunycode
      | some decoded => (checkLabel decoded).map fun _ => decoded

/-- The ASCII form of a label. -/
def encodeLabel (label : Text) : Except Fault Text :=
  if 1024 < label.length then .error .labelTooLong
  else if label.all CodePoint.isAscii then
    match decodeLabel label with
    | .error fault => .error fault
    | .ok _ => if label.length ≤ 63 then .ok label else .error .labelTooLong
  else
    match checkLabel label with
    | .error fault => .error fault
    | .ok () =>
      let encoded := encodedMark ++ Punycode.encode label
      if encoded.length ≤ 63 then .ok encoded else .error .labelTooLong

end Courier.Idna
