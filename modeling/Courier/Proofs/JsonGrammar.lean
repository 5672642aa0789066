/-
**The grammar of JSON.**

What RFC 8259 calls a JSON text, told by its rules and not by a way to read it: white space may
stand around values and around the six marks of structure, a text holds no control character that
is not escaped, a number has no zero before its other digits, and the only words are null, true and
false.

* `Json.Derives`: the rules.
* `Json.closed_of_textLeft`, `Json.textLeft_of_areChars`: the rest of a text is read exactly if it
  is characters and a closing mark.
* `Json.isNumber_of_readNumber`, `Json.readNumber_of_isNumber`: so it is with numbers.
-/
import Courier.Proofs.JsonReading
namespace Courier

namespace Json

/-! ### The rules -/

/-- One character inside a text, as it is written. -/
inductive IsChar : Text → Prop
  /-- A character that stands for itself. -/
  | plain {c : CodePoint} (visible : 0x20 ≤ c.val) (notQuote : c ≠ CodePoint.ofChar '"')
    (notSlash : c ≠ CodePoint.ofChar '\\') : IsChar [c]
  /-- A backslash and a letter that stands for a character. -/
  | letter {e : CodePoint} (listed : e ∈ ("\"\\/bfnrt" : Text)) : IsChar ['\\', e]
  /-- A backslash and the number of a code unit in four hexadecimal digits. -/
  | unit {a b c d : CodePoint} (hex : ∀ digit ∈ [a, b, c, d], digit.hexDigit?.isSome) :
    IsChar ['\\', 'u', a, b, c, d]

/-- Characters inside a text, one after another. -/
inductive AreChars : Text → Prop
  | nil : AreChars []
  | cons {first rest : Text} (char : IsChar first) (others : AreChars rest) :
    AreChars (first ++ rest)

/-- A text between quotation marks. -/
def IsQuoted (t : Text) : Prop :=
  ∃ inside, AreChars inside ∧ t = "\"" ++ inside ++ "\""

/-- What may stand after the whole part of a number: a point and digits, or nothing. -/
inductive IsFraction : Text → Prop
  | none : IsFraction []
  | point {digits : Text} (are : AreDigits digits) : IsFraction ('.' :: digits)

/-- What may end a number: a power of ten, with a sign or without, or nothing. -/
inductive IsPower : Text → Prop
  | none : IsPower []
  | power {mark : CodePoint} (marks : mark = 'e' ∨ mark = 'E') {sign digits : Text}
    (signs : sign = "" ∨ sign = "+" ∨ sign = "-") (are : AreDigits digits) :
    IsPower (mark :: (sign ++ digits))

/-- A number. -/
inductive IsNumber : Text → Prop
  | intro (negative : Bool) {whole fraction power : Text} (starts : IsWhole whole)
    (point : IsFraction fraction) (ends : IsPower power) :
    IsNumber (signText negative ++ (whole ++ (fraction ++ power)))

/-- What the rules derive. -/
inductive Symbol
  | value
  | object
  /-- A value with white space around it. -/
  | element
  /-- Elements with commas between them. -/
  | elements
  /-- A key, a colon and an element. -/
  | member
  /-- Members with commas between them. -/
  | members

/-- **The rules.** -/
inductive Derives : Symbol → Text → Prop
  | null : Derives .value "null"
  | yes : Derives .value "true"
  | no : Derives .value "false"
  | number {t : Text} (number : IsNumber t) : Derives .value t
  | text {t : Text} (quoted : IsQuoted t) : Derives .value t
  | emptyList {gap : Text} (blank : IsBlank gap) : Derives .value ("[" ++ gap ++ "]")
  | list {t : Text} (inside : Derives .elements t) : Derives .value ("[" ++ t ++ "]")
  | object {t : Text} (object : Derives .object t) : Derives .value t
  | emptyObject {gap : Text} (blank : IsBlank gap) : Derives .object ("\x7b" ++ gap ++ "\x7d")
  | members {t : Text} (inside : Derives .members t) : Derives .object ("\x7b" ++ t ++ "\x7d")
  | element {before t after : Text} (front : IsBlank before) (value : Derives .value t)
    (back : IsBlank after) : Derives .element (before ++ t ++ after)
  | lastElement {t : Text} (element : Derives .element t) : Derives .elements t
  | moreElements {t rest : Text} (element : Derives .element t) (others : Derives .elements rest) :
    Derives .elements (t ++ "," ++ rest)
  | member {before name after t : Text} (front : IsBlank before) (quoted : IsQuoted name)
    (back : IsBlank after) (element : Derives .element t) :
    Derives .member (before ++ name ++ after ++ ":" ++ t)
  | lastMember {t : Text} (member : Derives .member t) : Derives .members t
  | moreMembers {t rest : Text} (member : Derives .member t) (others : Derives .members rest) :
    Derives .members (t ++ "," ++ rest)

/-- A JSON text that is an object. -/
def IsObject (t : Text) : Prop :=
  ∃ before body after, IsBlank before ∧ Derives .object body ∧ IsBlank after ∧
    t = before ++ body ++ after

/-! ### Texts -/

theorem hexUnit?_isSome_iff {a b c d : CodePoint} :
    (hexUnit? a b c d).isSome ↔ ∀ digit ∈ [a, b, c, d], digit.hexDigit?.isSome := by
  unfold hexUnit?
  simp only [Option.bind_eq_bind, Option.isSome_iff_exists, Option.bind_eq_some_iff,
    List.forall_mem_cons]
  simp

theorem escapeLetter?_isSome_iff {e : CodePoint} :
    (escapeLetter? e).isSome ↔ e ∈ ("\"\\/bfnrt" : Text) := by
  show _ ↔ e ∈ [CodePoint.ofChar '"', CodePoint.ofChar '\\', CodePoint.ofChar '/',
    CodePoint.ofChar 'b', CodePoint.ofChar 'f', CodePoint.ofChar 'n', CodePoint.ofChar 'r',
    CodePoint.ofChar 't']
  simp only [List.mem_cons, List.not_mem_nil, or_false]
  unfold escapeLetter?
  grind

/-- What is left after the rest of a text is read. -/
def textLeft (t : Text) : Option Text :=
  (readText t).map Prod.snd

theorem textLeft_map {t : Text} (f : Text → Text) :
    ((readText t).map fun (read, left) => (f read, left)).map Prod.snd = textLeft t := by
  unfold textLeft
  rw [Option.map_map]
  rfl

theorem textLeft_quote (rest : Text) : textLeft (CodePoint.ofChar '"' :: rest) = some rest := by
  unfold textLeft
  rw [readText.eq_def]
  rfl

theorem textLeft_plain {c : CodePoint} (visible : 0x20 ≤ c.val)
    (notQuote : c ≠ CodePoint.ofChar '"') (notSlash : c ≠ CodePoint.ofChar '\\') (rest : Text) :
    textLeft (c :: rest) = textLeft rest := by
  unfold textLeft
  rw [readText_plain visible notQuote notSlash]
  exact textLeft_map (c :: ·)

theorem textLeft_letter {e : CodePoint} (letter : (escapeLetter? e).isSome) (rest : Text) :
    textLeft (CodePoint.ofChar '\\' :: e :: rest) = textLeft rest := by
  obtain ⟨meant, letter⟩ := Option.isSome_iff_exists.mp letter
  unfold textLeft
  rw [readText_letter letter]
  exact textLeft_map (meant :: ·)

theorem lowHalf?_eq_some {t left : Text} {low : Nat} (half : lowHalf? t = some (low, left)) :
    ∃ a b c d, t = CodePoint.ofChar '\\' :: CodePoint.ofChar 'u' :: a :: b :: c :: d :: left ∧
      hexUnit? a b c d = some low ∧ 0xDC00 ≤ low := by
  unfold lowHalf? at half
  split at half
  · rename_i s u a b c d rest
    split at half
    · rename_i marks
      simp only [Bool.and_eq_true, decide_eq_true_eq] at marks
      obtain ⟨rfl, rfl⟩ := marks
      split at half
      · rename_i unit hex
        split at half
        · rename_i bounds
          cases half
          simp only [Bool.and_eq_true, decide_eq_true_eq] at bounds
          exact ⟨a, b, c, d, rfl, hex, bounds.1⟩
        · cases half
      · cases half
    · cases half
  · cases half

/-- After a code unit that opens no surrogate pair the text goes on behind it. -/
theorem textLeft_single {a b c d : CodePoint} {unit : Nat} (hex : hexUnit? a b c d = some unit)
    (single : ¬ (0xD800 ≤ unit ∧ unit ≤ 0xDBFF)) (rest : Text) :
    textLeft (CodePoint.ofChar '\\' :: CodePoint.ofChar 'u' :: a :: b :: c :: d :: rest) =
      textLeft rest := by
  unfold textLeft
  rw [readText_unit hex single]
  exact textLeft_map (CodePoint.ofNat unit :: ·)

/-- A code unit is one character of the text. That two of them are read at once where they are a
surrogate pair makes no difference to what is left. -/
theorem textLeft_unit {a b c d : CodePoint} (hex : (hexUnit? a b c d).isSome) (rest : Text) :
    textLeft (CodePoint.ofChar '\\' :: CodePoint.ofChar 'u' :: a :: b :: c :: d :: rest) =
      textLeft rest := by
  obtain ⟨unit, hex⟩ := Option.isSome_iff_exists.mp hex
  by_cases high : 0xD800 ≤ unit ∧ unit ≤ 0xDBFF
  · have other : CodePoint.ofChar '\\' ≠ CodePoint.ofChar '"' := by decide
    show ((readText _).map Prod.snd) = _
    rw [readText.eq_def]
    simp only [if_neg other, if_true, hex, high.1, high.2, decide_true, Bool.and_self]
    split
    · rename_i s u a' b' c' d' after
      cases half : lowHalf? (s :: u :: a' :: b' :: c' :: d' :: after) with
      | none => exact textLeft_map (CodePoint.ofNat unit :: ·)
      | some found =>
        obtain ⟨low, left⟩ := found
        obtain ⟨_, _, _, _, same, second, above⟩ := lowHalf?_eq_some half
        cases same
        refine Eq.trans ?_ (textLeft_single second (by omega) after).symm
        exact textLeft_map
          (CodePoint.ofNat (0x10000 + (unit - 0xD800) * 0x400 + (low - 0xDC00)) :: ·)
    · exact textLeft_map (CodePoint.ofNat unit :: ·)
  · exact textLeft_single hex high rest

/-- Characters and a closing mark after them. -/
def Closed (t rest : Text) : Prop :=
  ∃ inside, AreChars inside ∧ t = inside ++ CodePoint.ofChar '"' :: rest

theorem Closed.cons {first after rest : Text} (char : IsChar first) (closed : Closed after rest) :
    Closed (first ++ after) rest := by
  obtain ⟨inside, chars, rfl⟩ := closed
  exact ⟨first ++ inside, .cons char chars, (List.append_assoc ..).symm⟩

theorem Closed.unit {a b c d : CodePoint} {unit : Nat} (hex : hexUnit? a b c d = some unit)
    {after rest : Text} (closed : textLeft after = some rest → Closed after rest)
    (left : textLeft (CodePoint.ofChar '\\' :: CodePoint.ofChar 'u' :: a :: b :: c :: d :: after) =
      some rest) :
    Closed (CodePoint.ofChar '\\' :: CodePoint.ofChar 'u' :: a :: b :: c :: d :: after) rest := by
  have hex : (hexUnit? a b c d).isSome := Option.isSome_of_eq_some hex
  rw [textLeft_unit hex] at left
  exact (closed left).cons (.unit (hexUnit?_isSome_iff.mp hex))

/-- What is read as the rest of a text are characters and a closing mark. -/
theorem closed_of_textLeft {t rest : Text} (left : textLeft t = some rest) : Closed t rest := by
  have unread : ∀ {t : Text}, readText t = none → textLeft t ≠ some rest := by
    intro t nothing
    unfold textLeft
    rw [nothing]
    exact nofun
  induction t using readText.induct with
  | case1 => cases left
  | case2 after =>
    rw [textLeft_quote] at left
    cases left
    exact ⟨[], .nil, rfl⟩
  | case3 => cases left
  | case4 a b c d after hex other =>
    refine absurd left (unread ?_)
    rw [readText.eq_def]
    simp only [if_neg other, if_true, hex]
  | case5 a b c d unit hex _ s u a' b' c' d' after low _ half _ ih =>
    obtain ⟨_, _, _, _, same, second, -⟩ := lowHalf?_eq_some half
    cases same
    exact .unit hex (.unit second ih) left
  | case6 a b c d unit hex _ s u a' b' c' d' after half _ ih => exact .unit hex ih left
  | case7 a b c d unit hex _ after _ _ ih => exact .unit hex ih left
  | case8 a b c d after unit hex _ _ ih => exact .unit hex ih left
  | case9 after short other =>
    refine absurd left (unread ?_)
    rw [readText.eq_def]
    simp only [if_neg other, if_true]
  | case10 e after _ meant letter _ ih =>
    have letter : (escapeLetter? e).isSome := Option.isSome_of_eq_some letter
    rw [textLeft_letter letter] at left
    exact (ih left).cons (.letter (escapeLetter?_isSome_iff.mp letter))
  | case11 e after notUnit letter other =>
    refine absurd left (unread ?_)
    rw [readText.eq_def]
    simp only [if_neg other, if_true, if_neg notUnit, letter]
  | case12 c after notQuote notSlash control =>
    refine absurd left (unread ?_)
    rw [readText.eq_def]
    simp only [if_neg notQuote, if_neg notSlash, if_pos control]
  | case13 c after notQuote notSlash visible ih =>
    have visible : 0x20 ≤ c.val := Nat.not_lt.mp visible
    rw [textLeft_plain visible notQuote notSlash] at left
    exact (ih left).cons (.plain visible notQuote notSlash)

/-- Characters and a closing mark are read as the rest of a text, and nothing after them is. -/
theorem textLeft_of_areChars {inside : Text} (chars : AreChars inside) (rest : Text) :
    textLeft (inside ++ CodePoint.ofChar '"' :: rest) = some rest := by
  induction chars with
  | nil => exact textLeft_quote rest
  | @cons first others char chars ih =>
    rw [List.append_assoc, ← ih]
    cases char with
    | plain visible notQuote notSlash => exact textLeft_plain visible notQuote notSlash _
    | letter listed => exact textLeft_letter (escapeLetter?_isSome_iff.mpr listed) _
    | unit hex => exact textLeft_unit (hexUnit?_isSome_iff.mpr hex) _

/-! ### Numbers -/

/-- What may follow a number: nothing that would go on with it. -/
def EndsNumber (rest : Text) : Prop :=
  ∀ c ∈ rest.head?, c.isAsciiDigit = false ∧ c ≠ CodePoint.ofChar '.' ∧
    c ≠ CodePoint.ofChar 'e' ∧ c ≠ CodePoint.ofChar 'E'

theorem exists_of_readDigits {t rest : Text} {values : List Nat}
    (reads : readDigits t = (values, rest)) :
    ∃ digits, t = digits ++ rest ∧ (∀ c ∈ digits, c.isAsciiDigit) ∧ values = digitValues digits := by
  unfold readDigits at reads
  obtain ⟨rfl, rfl⟩ := Prod.mk.inj reads
  exact ⟨_, List.takeWhile_append_dropWhile.symm, fun c => List.mem_takeWhile_imp, rfl⟩

theorem areDigits_of_readDigits {t rest : Text} {first : Nat} {others : List Nat}
    (reads : readDigits t = (first :: others, rest)) :
    ∃ digits, t = digits ++ rest ∧ AreDigits digits ∧ digitValues digits = first :: others := by
  obtain ⟨digits, shape, ascii, values⟩ := exists_of_readDigits reads
  refine ⟨digits, shape, ⟨?_, ascii⟩, values.symm⟩
  rintro rfl
  cases values

theorem isFraction_of_readFraction? {t rest : Text} {fraction : Option (List Nat)}
    (reads : readFraction? t = some (fraction, rest)) :
    ∃ point, t = point ++ rest ∧ IsFraction point := by
  unfold readFraction? at reads
  split at reads
  · rename_i c after
    split at reads
    · rename_i mark
      subst mark
      split at reads
      · cases reads
      · rename_i values left occupied digits
        cases reads
        cases values with
        | nil => exact (occupied rfl).elim
        | cons first others =>
          obtain ⟨written, rfl, are, -⟩ := areDigits_of_readDigits digits
          exact ⟨_, rfl, .point are⟩
    · cases reads
      exact ⟨[], rfl, .none⟩
  · cases reads
    exact ⟨[], rfl, .none⟩

/-- The sign of a power of ten, if it has one, and what follows it. -/
def powerSign (t : Text) : Bool × Text :=
  match t with
  | s :: after => if s = '-' then (true, after) else if s = '+' then (false, after) else (false, t)
  | [] => (false, [])

theorem readExponent?_mark {mark : CodePoint}
    (marks : mark = CodePoint.ofChar 'e' ∨ mark = CodePoint.ofChar 'E') (after : Text) :
    readExponent? (mark :: after) =
      match readDigits (powerSign after).2 with
      | ([], _) => none
      | (digits, rest) =>
        let power : Int := Text.numeral 10 digits
        some (some (if (powerSign after).1 then -power else power), rest) := by
  have starts : (decide (mark = CodePoint.ofChar 'e') || decide (mark = CodePoint.ofChar 'E')) =
      true := by simpa using marks
  unfold readExponent?
  simp only [starts, if_true]
  rfl

theorem readExponent?_unmarked {t : Text}
    (other : ∀ c ∈ t.head?, c ≠ CodePoint.ofChar 'e' ∧ c ≠ CodePoint.ofChar 'E') :
    readExponent? t = some (none, t) := by
  cases t with
  | nil => rfl
  | cons c after =>
    obtain ⟨small, large⟩ := other c rfl
    unfold readExponent?
    simp [small, large]

theorem exists_sign (t : Text) :
    ∃ sign : Text, (sign = "" ∨ sign = "+" ∨ sign = "-") ∧ t = sign ++ (powerSign t).2 := by
  cases t with
  | nil => exact ⟨"", .inl rfl, rfl⟩
  | cons s after =>
    by_cases minus : s = CodePoint.ofChar '-'
    · subst minus
      exact ⟨"-", .inr (.inr rfl), rfl⟩
    by_cases plus : s = CodePoint.ofChar '+'
    · subst plus
      exact ⟨"+", .inr (.inl rfl), rfl⟩
    · refine ⟨"", .inl rfl, ?_⟩
      unfold powerSign
      simp only [if_neg minus, if_neg plus]
      rfl

theorem powerSign_append {sign digits : Text} (signs : sign = "" ∨ sign = "+" ∨ sign = "-")
    (are : AreDigits digits) (rest : Text) :
    (powerSign (sign ++ (digits ++ rest))).2 = digits ++ rest := by
  rcases signs with rfl | rfl | rfl
  · obtain ⟨c, tail, rfl⟩ := List.exists_cons_of_ne_nil are.some
    have bounds := bounds_of_isAsciiDigit (are.digits c List.mem_cons_self)
    have minus : c ≠ CodePoint.ofChar '-' := by
      rintro rfl
      exact absurd bounds.1 (by decide)
    have plus : c ≠ CodePoint.ofChar '+' := by
      rintro rfl
      exact absurd bounds.1 (by decide)
    show (powerSign (c :: (tail ++ rest))).2 = _
    unfold powerSign
    simp only [if_neg minus, if_neg plus]
    rfl
  · rfl
  · rfl

theorem isPower_of_readExponent? {t rest : Text} {power : Option Int}
    (reads : readExponent? t = some (power, rest)) :
    ∃ written, t = written ++ rest ∧ IsPower written := by
  cases t with
  | nil =>
    cases reads
    exact ⟨[], rfl, .none⟩
  | cons mark after =>
    by_cases marks : mark = CodePoint.ofChar 'e' ∨ mark = CodePoint.ofChar 'E'
    · rw [readExponent?_mark marks] at reads
      obtain ⟨sign, signs, shape⟩ := exists_sign after
      split at reads
      · cases reads
      · rename_i values left occupied digits
        cases reads
        cases values with
        | nil => exact (occupied rfl).elim
        | cons first others =>
          obtain ⟨written, same, are, -⟩ := areDigits_of_readDigits digits
          refine ⟨mark :: (sign ++ written), ?_, .power marks signs are⟩
          rw [List.cons_append, List.append_assoc, ← same, ← shape]
    · rw [readExponent?_unmarked (by rintro _ ⟨⟩; exact not_or.mp marks)] at reads
      cases reads
      exact ⟨[], rfl, .none⟩

/-- Digits are a zero first, or they do not start with one. -/
theorem isWhole_of_readWhole? {t rest : Text} {values : List Nat}
    (reads : readWhole? t = some (values, rest)) : ∃ whole, t = whole ++ rest ∧ IsWhole whole := by
  have zero : ∀ {c : CodePoint}, c.isAsciiDigit → (c.val - 0x30 = 0 ↔ c = CodePoint.ofChar '0') := by
    intro c digit
    have bounds := bounds_of_isAsciiDigit digit
    constructor
    · intro low
      have same : c.val = 0x30 := by omega
      rw [← CodePoint.ofNat_val c, same]
      decide
    · rintro rfl
      rfl
  unfold readWhole? at reads
  split at reads
  · cases reads
  · rename_i others after digits
    cases reads
    obtain ⟨written, rfl, are, values⟩ := areDigits_of_readDigits digits
    obtain ⟨c, tail, rfl⟩ := List.exists_cons_of_ne_nil are.some
    have first := (zero (are.digits c List.mem_cons_self)).mp (List.cons.inj values).1
    subst first
    exact ⟨"0", rfl, isWhole_zero⟩
  · rename_i values left occupied nonzero digits
    cases reads
    cases values with
    | nil => exact (occupied rfl).elim
    | cons first others =>
      obtain ⟨written, rfl, are, values⟩ := areDigits_of_readDigits digits
      refine ⟨written, rfl, are, .inr ?_⟩
      intro starts
      obtain ⟨tail, rfl⟩ := List.head?_eq_some_iff.mp starts
      exact (nonzero others (congrArg (· :: others) (List.cons.inj values).1.symm)).elim

theorem isNumber_of_readNumber {t rest : Text} {value : Value}
    (reads : readNumber t = some (value, rest)) :
    ∃ number, t = number ++ rest ∧ IsNumber number := by
  have unsigned : ∀ (negative : Bool) (t : Text), readUnsigned negative t = some (value, rest) →
      ∃ number, t = number ++ rest ∧ IsNumber (signText negative ++ number) := by
    intro negative t reads
    unfold readUnsigned at reads
    obtain ⟨⟨values, middle⟩, starts, reads⟩ := Option.bind_eq_some_iff.mp reads
    obtain ⟨⟨fraction, late⟩, point, reads⟩ := Option.bind_eq_some_iff.mp reads
    obtain ⟨⟨power, left⟩, powers, same⟩ := Option.bind_eq_some_iff.mp reads
    cases same
    obtain ⟨whole, rfl, isWhole⟩ := isWhole_of_readWhole? starts
    obtain ⟨behind, rfl, isFraction⟩ := isFraction_of_readFraction? point
    obtain ⟨last, rfl, isPower⟩ := isPower_of_readExponent? powers
    exact ⟨whole ++ (behind ++ last), by simp, .intro negative isWhole isFraction isPower⟩
  rw [readNumber_eq] at reads
  split at reads
  · rename_i minus
    obtain ⟨tail, rfl⟩ := List.head?_eq_some_iff.mp minus
    obtain ⟨number, shape, is⟩ := unsigned true tail reads
    exact ⟨_, congrArg (CodePoint.ofChar '-' :: ·) shape, is⟩
  · exact unsigned false t reads

theorem readNumber_ne_dict {t rest : Text} {entries : Entries} :
    readNumber t ≠ some (.dict entries, rest) := by
  have unsigned : ∀ (negative : Bool) (t : Text),
      readUnsigned negative t ≠ some (.dict entries, rest) := by
    intro negative t reads
    unfold readUnsigned at reads
    obtain ⟨⟨values, middle⟩, -, reads⟩ := Option.bind_eq_some_iff.mp reads
    obtain ⟨⟨fraction, late⟩, -, reads⟩ := Option.bind_eq_some_iff.mp reads
    obtain ⟨⟨power, left⟩, -, same⟩ := Option.bind_eq_some_iff.mp reads
    have same := (Prod.mk.inj (Option.some.inj same)).1
    unfold numberOf at same
    split at same
    · cases same
    · cases same
  rw [readNumber_eq]
  split
  · exact unsigned true _
  · exact unsigned false _

theorem readFraction?_of_isFraction {fraction rest : Text} (point : IsFraction fraction)
    (ends : EndsDigits rest) (other : rest.head? ≠ some (CodePoint.ofChar '.')) :
    ∃ values, readFraction? (fraction ++ rest) = some (values, rest) := by
  cases point with
  | none => exact ⟨_, readFraction?_pointText none nofun ends other⟩
  | point are =>
    refine ⟨_, readFraction?_pointText (some _) ?_ ends other⟩
    rintro _ ⟨⟩
    exact are

theorem readExponent?_of_isPower {power rest : Text} (powers : IsPower power)
    (ends : EndsNumber rest) : ∃ value, readExponent? (power ++ rest) = some (value, rest) := by
  cases powers with
  | none => exact ⟨none, readExponent?_unmarked fun c first => (ends c first).2.2⟩
  | @power mark marks sign digits signs are =>
    obtain ⟨first, others, -, reads⟩ :=
      readDigits_of_areDigits are fun c head => (ends c head).1
    rw [List.cons_append, List.append_assoc, readExponent?_mark marks, powerSign_append signs are,
      reads]
    exact ⟨_, rfl⟩

theorem IsPower.ends {power rest : Text} (powers : IsPower power) (ends : EndsNumber rest) :
    EndsDigits (power ++ rest) ∧ (power ++ rest).head? ≠ some (CodePoint.ofChar '.') := by
  cases powers with
  | none => exact ⟨fun c head => (ends c head).1, fun point => (ends _ point).2.1 rfl⟩
  | power marks signs are =>
    constructor
    · rintro c ⟨⟩
      rcases marks with rfl | rfl
      · decide
      · decide
    · intro point
      rcases marks with rfl | rfl
      · exact absurd (Option.some.inj point) (by decide)
      · exact absurd (Option.some.inj point) (by decide)

theorem IsFraction.ends {fraction rest : Text} (point : IsFraction fraction)
    (ends : EndsDigits rest) : EndsDigits (fraction ++ rest) := by
  cases point with
  | none => exact ends
  | point are =>
    rintro c ⟨⟩
    decide

/-- A number is read, and nothing after it is that would not go on with it. -/
theorem readNumber_of_isNumber {number rest : Text} (is : IsNumber number)
    (ends : EndsNumber rest) : ∃ value, readNumber (number ++ rest) = some (value, rest) := by
  obtain @⟨negative, whole, fraction, power, starts, point, powers⟩ := is
  obtain ⟨late, mark⟩ := powers.ends ends
  obtain ⟨values, reads⟩ := readFraction?_of_isFraction point late mark
  obtain ⟨value, reads_power⟩ := readExponent?_of_isPower powers ends
  rw [List.append_assoc, List.append_assoc, List.append_assoc]
  exact ⟨_, readNumber_parts negative starts (point.ends late) reads reads_power⟩

end Json

end Courier
