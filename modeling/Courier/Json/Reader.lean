/-
**Reading JSON.**

A strict reader of the grammar of RFC 8259: no words for floats that are no numbers, no controls
inside texts, nothing after the value. Whole numbers have any size; numbers with a fraction or an
exponent are floats. An escaped surrogate pair is one code point, and a lone escaped surrogate
stays one. A key that occurs again takes the later value.

* `Json.readText_plain`: a character that needs no escape is read as itself.
-/
import Courier.Json.Writer
namespace Courier.Json

/-- White space between tokens. -/
def isSpace (c : CodePoint) : Bool :=
  c.val = 0x20 || c.val = 0x09 || c.val = 0x0A || c.val = 0x0D

/-- Without the white space at the start. -/
def skip (t : Text) : Text :=
  t.dropWhile isSpace

/-- The number of four hexadecimal digits. -/
def hexUnit? (a b c d : CodePoint) : Option Nat := do
  let a ← a.hexDigit?
  let b ← b.hexDigit?
  let c ← c.hexDigit?
  let d ← d.hexDigit?
  return Text.numeral 16 [a, b, c, d]

/-- The low half that an escape at the start of the text names, and the text after it. -/
def lowHalf? : Text → Option (Nat × Text)
  | s :: u :: a :: b :: c :: d :: rest =>
    if s = '\\' && u = 'u' then
      match hexUnit? a b c d with
      | some unit => if 0xDC00 ≤ unit && unit ≤ 0xDFFF then some (unit, rest) else none
      | none => none
    else none
  | _ => none

/-- What a letter after a backslash stands for. -/
def escapeLetter? (c : CodePoint) : Option CodePoint :=
  if c = '"' || c = '\\' || c = '/' then some c
  else if c = 'n' then some '\n'
  else if c = 'r' then some '\r'
  else if c = 't' then some '\t'
  else if c = 'b' then some (CodePoint.ofNat 0x08)
  else if c = 'f' then some (CodePoint.ofNat 0x0C)
  else none

/-- Reads the rest of a text after its opening quotation mark: the text, and what follows the
closing mark. -/
def readText : Text → Option (Text × Text)
  | [] => none
  | c :: rest =>
    if c = '"' then some ([], rest)
    else if c = '\\' then
      match rest with
      | [] => none
      | e :: rest =>
        if e = 'u' then
          match rest with
          | a :: b :: c :: d :: rest =>
            match hexUnit? a b c d with
            | none => none
            | some unit =>
              if 0xD800 ≤ unit && unit ≤ 0xDBFF then
                match rest with
                | s :: u :: a :: b :: c :: d :: after =>
                  match lowHalf? (s :: u :: a :: b :: c :: d :: after) with
                  | some (low, _) =>
                    (readText after).map fun (t, left) =>
                      (CodePoint.ofNat (0x10000 + (unit - 0xD800) * 0x400 + (low - 0xDC00)) :: t,
                        left)
                  | none =>
                    (readText (s :: u :: a :: b :: c :: d :: after)).map fun (t, left) =>
                      (CodePoint.ofNat unit :: t, left)
                | rest => (readText rest).map fun (t, left) => (CodePoint.ofNat unit :: t, left)
              else (readText rest).map fun (t, left) => (CodePoint.ofNat unit :: t, left)
          | _ => none
        else
          match escapeLetter? e with
          | some meant => (readText rest).map fun (t, left) => (meant :: t, left)
          | none => none
    else if c.val < 0x20 then none
    else (readText rest).map fun (t, left) => (c :: t, left)

/-- The digits at the start of a text, and the rest. -/
def readDigits (t : Text) : List Nat × Text :=
  ((t.takeWhile CodePoint.isAsciiDigit).map fun c => c.val - 0x30,
    t.dropWhile CodePoint.isAsciiDigit)

/-- The digits after a decimal point at the start of a text; at least one must follow. -/
def readFraction? (t : Text) : Option (Option (List Nat) × Text) :=
  match t with
  | c :: rest =>
    if c = '.' then
      match readDigits rest with
      | ([], _) => none
      | (digits, rest) => some (some digits, rest)
    else some (none, t)
  | [] => some (none, [])

/-- The power of ten at the start of a text. -/
def readExponent? (t : Text) : Option (Option Int × Text) :=
  match t with
  | c :: rest =>
    if c = 'e' || c = 'E' then
      let (negative, rest) : Bool × Text :=
        match rest with
        | s :: after => if s = '-' then (true, after) else if s = '+' then (false, after)
          else (false, rest)
        | [] => (false, [])
      match readDigits rest with
      | ([], _) => none
      | (digits, rest) =>
        let power : Int := Text.numeral 10 digits
        some (some (if negative then -power else power), rest)
    else some (none, t)
  | [] => some (none, [])

/-- Reads a number. -/
def readNumber (t : Text) : Option (Value × Text) := do
  let (negative, t) : Bool × Text :=
    match t with
    | c :: rest => if c = '-' then (true, rest) else (false, t)
    | [] => (false, [])
  let (whole, t) ←
    match readDigits t with
    | ([], _) => none
    | (0 :: _, _) => some ([0], t.drop 1)
    | (digits, rest) => some (digits, rest)
  let (fraction, t) ← readFraction? t
  let (exponent, t) ← readExponent? t
  match fraction, exponent with
  | none, none =>
    let value : Int := Text.numeral 10 whole
    return (.int (if negative then -value else value), t)
  | _, _ =>
    let digits := fraction.getD []
    let decimal : Decimal :=
      ⟨negative, Text.numeral 10 (whole ++ digits), exponent.getD 0 - digits.length⟩
    return (.float decimal.toBinary64, t)

mutual

/-- Reads one value at the start of a text; `fuel` bounds the values and parts read. -/
def readValue (fuel : Nat) (t : Text) : Option (Value × Text) :=
  match fuel with
  | 0 => none
  | fuel + 1 =>
    match skip t with
    | [] => none
    | c :: rest =>
      if c = '"' then (readText rest).map fun (t, left) => (.text t, left)
      else if c = '\x7b' then
        match skip rest with
        | [] => none
        | d :: after =>
          if d = '\x7d' then some (.dict [], after)
          else
            (readEntries fuel (d :: after)).map fun (pairs, left) =>
              (.dict (Value.entriesOf pairs), left)
      else if c = '[' then
        match skip rest with
        | [] => none
        | d :: after =>
          if d = ']' then some (.list [], after)
          else (readElements fuel (d :: after)).map fun (values, left) => (.list values, left)
      else if c = 'n' then (Text.dropStart? "ull" rest).map fun left => (.null, left)
      else if c = 't' then (Text.dropStart? "rue" rest).map fun left => (.bool true, left)
      else if c = 'f' then (Text.dropStart? "alse" rest).map fun left => (.bool false, left)
      else readNumber (c :: rest)

/-- Reads the elements of a list up to its closing bracket. -/
def readElements (fuel : Nat) (t : Text) : Option (List Value × Text) :=
  match fuel with
  | 0 => none
  | fuel + 1 => do
    let (value, t) ← readValue fuel t
    match skip t with
    | [] => none
    | c :: rest =>
      if c = ']' then return ([value], rest)
      else if c = ',' then
        let (values, left) ← readElements fuel rest
        return (value :: values, left)
      else none

/-- Reads the entries of a dictionary up to its closing brace. -/
def readEntries (fuel : Nat) (t : Text) : Option (List (Value × Value) × Text) :=
  match fuel with
  | 0 => none
  | fuel + 1 =>
    match skip t with
    | [] => none
    | q :: rest =>
      if q = '"' then do
        let (key, t) ← readText rest
        match skip t with
        | [] => none
        | c :: rest =>
          if c = ':' then
            let (value, t) ← readValue fuel rest
            match skip t with
            | [] => none
            | d :: rest =>
              if d = '\x7d' then return ([(.text key, value)], rest)
              else if d = ',' then
                let (pairs, left) ← readEntries fuel rest
                return ((.text key, value) :: pairs, left)
              else none
          else none
      else none

end

/-- The value that a whole text is, white space around it apart. -/
def read (t : Text) : Option Value := do
  let (value, left) ← readValue (2 * t.length + 1) t
  if (skip left).isEmpty then return value else none

theorem readText_plain {c : CodePoint} (visible : 0x20 ≤ c.val)
    (notQuote : c ≠ CodePoint.ofChar '"') (notSlash : c ≠ CodePoint.ofChar '\\') (rest : Text) :
    readText (c :: rest) = (readText rest).map fun (t, left) => (c :: t, left) := by
  rw [readText.eq_def]
  simp only [if_neg notQuote, if_neg notSlash, if_neg (Nat.not_lt.mpr visible)]

end Courier.Json
