/-
**What JSON reads of a token.**

A text, a whole number and a finite float are read back from what is written for them, whatever
follows them inside a list, inside a dictionary or at the end. Nothing is read of the words that are
written for other floats. No control character stands in any of these.

* `Json.readText_flatMap`: a text is read back up to its closing quotation mark.
* `Json.readNumber_ofInt`: a whole number is read back.
* `Json.isFloatText_toText`: how a float is written.
* `Json.IsFloatText.reads`: a float is read from it.
-/
import Courier.Json.Reader
namespace Courier

namespace Json

/-! ### Texts -/

/-- The code point that an escape stands for: a letter after a backslash, or four hexadecimal
digits. -/
def unescape? : Text → Option CodePoint
  | [s, e] => if s = '\\' then escapeLetter? e else none
  | [s, u, a, b, c, d] =>
    if s = '\\' ∧ u = 'u' then (hexUnit? a b c d).map CodePoint.ofNat else none
  | _ => none

theorem readText_letter {e meant : CodePoint} (letter : escapeLetter? e = some meant)
    (rest : Text) :
    readText (CodePoint.ofChar '\\' :: e :: rest) =
      (readText rest).map fun (t, left) => (meant :: t, left) := by
  have other : e ≠ CodePoint.ofChar 'u' := by
    rintro rfl
    exact nomatch letter
  rw [readText.eq_def]
  simp only [if_neg other, letter]
  rfl

/-- The number of a code unit that opens no surrogate pair. -/
theorem readText_unit {a b c d : CodePoint} {unit : Nat} (hex : hexUnit? a b c d = some unit)
    (single : ¬ (0xD800 ≤ unit ∧ unit ≤ 0xDBFF)) (rest : Text) :
    readText (CodePoint.ofChar '\\' :: CodePoint.ofChar 'u' :: a :: b :: c :: d :: rest) =
      (readText rest).map fun (t, left) => (CodePoint.ofNat unit :: t, left) := by
  rw [readText.eq_def]
  simp only [hex]
  simp [single]

/-- An escape is read as what it stands for, unless that might be one half of a pair. -/
theorem readText_of_unescape? {t : Text} {c : CodePoint} (escaped : unescape? t = some c)
    (low : c.val < 0xD800) (rest : Text) :
    readText (t ++ rest) = (readText rest).map fun (read, left) => (c :: read, left) := by
  unfold unescape? at escaped
  split at escaped
  · split at escaped
    · rename_i same
      subst same
      exact readText_letter escaped rest
    · cases escaped
  · split at escaped
    · rename_i same
      obtain ⟨rfl, rfl⟩ := same
      obtain ⟨unit, hex, rfl⟩ := Option.map_eq_some_iff.mp escaped
      refine readText_unit hex ?_ rest
      unfold CodePoint.ofNat at low
      split at low
      · exact fun high => Nat.not_le.mpr low high.1
      · exact absurd low (by decide)
    · cases escaped
  · cases escaped

theorem unescape?_escape {c : CodePoint} (control : c.val < 0x20) :
    unescape? (escape c) = some c := by
  have each : ∀ n : Fin 0x20,
      unescape? (escape (CodePoint.ofNat n.val)) = some (CodePoint.ofNat n.val) := by
    decide +kernel
  have holds := each ⟨c.val, control⟩
  rwa [CodePoint.ofNat_val] at holds

theorem readText_escape (c : CodePoint) (rest : Text) :
    readText (escape c ++ rest) = (readText rest).map fun (t, left) => (c :: t, left) := by
  by_cases quotes : c = CodePoint.ofChar '"'
  · subst quotes
    exact readText_of_unescape? rfl (by decide) rest
  by_cases slash : c = CodePoint.ofChar '\\'
  · subst slash
    exact readText_of_unescape? rfl (by decide) rest
  by_cases visible : 0x20 ≤ c.val
  · unfold escape
    rw [if_neg quotes, if_neg slash, if_pos visible]
    exact readText_plain visible quotes slash rest
  · have control : c.val < 0x20 := Nat.lt_of_not_le visible
    exact readText_of_unescape? (unescape?_escape control) (by omega) rest

/-- A text is read back up to its closing mark. -/
theorem readText_flatMap (t rest : Text) :
    readText (t.flatMap escape ++ CodePoint.ofChar '"' :: rest) = some (t, rest) := by
  induction t with
  | nil =>
    rw [readText.eq_def]
    rfl
  | cons c tail ih =>
    rw [List.flatMap_cons, List.append_assoc, readText_escape, ih]
    rfl

theorem quote_append (t rest : Text) :
    quote t ++ rest =
      CodePoint.ofChar '"' :: (t.flatMap escape ++ CodePoint.ofChar '"' :: rest) := by
  unfold quote
  rw [List.append_assoc, List.append_assoc]
  rfl

/-! ### Numbers -/

/-- What may follow a value: the end, a comma, or the closing mark of a list or dictionary. -/
def Closes (rest : Text) : Prop :=
  ∀ c ∈ rest.head?, c = ',' ∨ c = ']' ∨ c = '\x7d'

theorem readDigits_append {digits rest : Text} (ascii : ∀ c ∈ digits, c.isAsciiDigit)
    (ends : ∀ c ∈ rest.head?, c.isAsciiDigit = false) :
    readDigits (digits ++ rest) = (digits.map fun c => c.val - 0x30, rest) := by
  unfold readDigits
  rw [List.takeWhile_append_of_pos ascii, List.dropWhile_append_of_pos ascii]
  cases rest with
  | nil => simp
  | cons c tail =>
    have other := ends c rfl
    simp [other]

theorem ofNat_isAsciiDigit (n : Nat) : ∀ c ∈ Text.ofNat n, c.isAsciiDigit := by
  intro c member
  obtain ⟨digit, listed, rfl⟩ := List.mem_map.mp member
  have isDigit := Nat.isDigit_of_mem_toDigits (by decide) (by decide) listed
  have bounds : 0x30 ≤ digit.toNat ∧ digit.toNat ≤ 0x39 := by
    simpa [Char.isDigit, UInt32.le_iff_toNat_le] using isDigit
  exact Bool.and_eq_true_iff.mpr ⟨decide_eq_true bounds.1, decide_eq_true bounds.2⟩

theorem bounds_of_isAsciiDigit {c : CodePoint} (digit : c.isAsciiDigit) :
    0x30 ≤ c.val ∧ c.val ≤ 0x39 := by
  simpa only [CodePoint.isAsciiDigit, Bool.and_eq_true, decide_eq_true_eq] using digit

theorem numeral_ofNat (n : Nat) :
    Text.numeral 10 ((Text.ofNat n).map fun c => c.val - 0x30) = n := by
  have back := Nat.ofDigitChars_ten_toDigits (n := n)
  unfold Nat.ofDigitChars at back
  unfold Text.numeral Text.ofNat
  rw [List.map_map, List.foldl_map]
  simpa [Nat.mul_comm] using back

/-- A number above zero starts with a digit above zero. -/
theorem toDigits_head {n : Nat} (positive : 0 < n) :
    ∃ digit tail, Nat.toDigits 10 n = digit.digitChar :: tail ∧ 0 < digit ∧ digit < 10 := by
  induction n using Nat.strongRecOn with
  | ind n ih =>
    by_cases small : n < 10
    · exact ⟨n, [], Nat.toDigits_of_lt_base small, positive, small⟩
    · obtain ⟨digit, tail, shape, bounds⟩ := ih (n / 10) (by omega) (by omega)
      rw [Nat.toDigits_of_base_le (by decide) (Nat.le_of_not_lt small), shape]
      exact ⟨digit, tail ++ [(n % 10).digitChar], rfl, bounds⟩

theorem ofNat_head (n : Nat) : ∃ c tail, Text.ofNat n = c :: tail ∧ c.isAsciiDigit := by
  cases shape : Text.ofNat n with
  | nil => exact absurd (List.map_eq_nil_iff.mp shape) Nat.toDigits_ne_nil
  | cons c tail => exact ⟨c, tail, rfl, ofNat_isAsciiDigit n c (by simp [shape])⟩

/-- A number from one on is written without a zero at the start. -/
theorem digits_ofNat {n : Nat} (positive : 0 < n) :
    ∃ digit tail, ((Text.ofNat n).map fun c => c.val - 0x30) = (digit + 1) :: tail := by
  have values : ∀ digit : Fin 10, (Nat.digitChar digit.val).toNat - 0x30 = digit.val := by decide
  obtain ⟨digit, tail, shape, above, below⟩ := toDigits_head positive
  obtain ⟨before, rfl⟩ := Nat.exists_eq_succ_of_ne_zero (Nat.ne_of_gt above)
  unfold Text.ofNat
  rw [shape]
  exact ⟨before, _, congrArg (· :: _) (values ⟨before + 1, below⟩)⟩

theorem Closes.not_digit {rest : Text} (closes : Closes rest) :
    ∀ c ∈ rest.head?, c.isAsciiDigit = false := by
  intro c first
  rcases closes c first with rfl | rfl | rfl
  · decide
  · decide
  · decide

/-- No fraction and no power of ten stands where a value closes. -/
theorem readFraction?_of_closes {rest : Text} (closes : Closes rest) :
    readFraction? rest = some (none, rest) := by
  cases rest with
  | nil => rfl
  | cons c tail =>
    rcases closes c rfl with rfl | rfl | rfl
    · rfl
    · rfl
    · rfl

theorem readExponent?_of_closes {rest : Text} (closes : Closes rest) :
    readExponent? rest = some (none, rest) := by
  cases rest with
  | nil => rfl
  | cons c tail =>
    rcases closes c rfl with rfl | rfl | rfl
    · rfl
    · rfl
    · rfl

/-! ### Characters of tokens -/

theorem visible_quote (t : Text) : ∀ c ∈ quote t, 0x20 ≤ c.val := by
  have mark : ∀ c ∈ ("\"" : Text), 0x20 ≤ c.val := by decide
  unfold quote
  refine List.forall_mem_append.mpr ⟨List.forall_mem_append.mpr ⟨mark, ?_⟩, mark⟩
  intro c member
  obtain ⟨d, -, inside⟩ := List.mem_flatMap.mp member
  exact escape_val d c inside

/-- A whole number is written in digits, and a minus sign before them. -/
theorem ofInt_bounds (i : Int) : ∀ c ∈ Text.ofInt i, 0x2D ≤ c.val ∧ c.val ≤ 0x39 := by
  have digits : ∀ c ∈ Text.ofNat i.natAbs, 0x2D ≤ c.val ∧ c.val ≤ 0x39 := by
    intro c member
    have bounds := bounds_of_isAsciiDigit (ofNat_isAsciiDigit i.natAbs c member)
    omega
  intro c member
  unfold Text.ofInt at member
  split at member
  · rcases List.mem_cons.mp member with rfl | later
    · decide
    · exact digits c later
  · exact digits c member

theorem ofInt_ne_nil (i : Int) : Text.ofInt i ≠ [] := by
  obtain ⟨c, tail, shape, -⟩ := ofNat_head i.natAbs
  unfold Text.ofInt
  split
  · exact List.cons_ne_nil _ _
  · rw [shape]
    exact List.cons_ne_nil _ _

/-! ### Floats -/

/-- Digits, at least one. -/
structure AreDigits (t : Text) : Prop where
  some : t ≠ []
  digits : ∀ c ∈ t, c.isAsciiDigit

/-- The digits before a point: a single zero, or digits that do not start with one. -/
structure IsWhole (t : Text) : Prop where
  digits : AreDigits t
  plain : t = "0" ∨ t.head? ≠ some (CodePoint.ofChar '0')

/-- The values of digits. -/
def digitValues (t : Text) : List Nat :=
  t.map fun c => c.val - 0x30

/-- The sign of a number. -/
def signText (negative : Bool) : Text :=
  if negative then "-" else ""

/-- The digits after a point, behind it. -/
def pointText : Option Text → Text
  | none => []
  | some digits => '.' :: digits

/-- The digits of a power of ten, behind its mark and its sign. -/
def powerText : Option (Bool × Text) → Text
  | none => []
  | some (negative, digits) => 'e' :: (if negative then '-' else '+') :: digits

/-- How a float is written: a sign, digits, and then a point and digits, a power of ten, or both. -/
inductive IsFloatText : Text → Prop
  | intro (negative : Bool) {whole : Text} (starts : IsWhole whole) (fraction : Option Text)
    (point : ∀ digits ∈ fraction, AreDigits digits) (power : Option (Bool × Text))
    (powers : ∀ exponent ∈ power, AreDigits exponent.2) (either : fraction.isSome ∨ power.isSome) :
    IsFloatText (signText negative ++ (whole ++ (pointText fraction ++ powerText power)))

theorem areDigits_append {first second : Text} (digits : AreDigits first)
    (more : ∀ c ∈ second, c.isAsciiDigit) : AreDigits (first ++ second) where
  some := List.append_ne_nil_of_left_ne_nil digits.some second
  digits := List.forall_mem_append.mpr ⟨digits.digits, more⟩

theorem areDigits_ofNat (n : Nat) : AreDigits (Text.ofNat n) where
  some := by
    obtain ⟨c, tail, shape, -⟩ := ofNat_head n
    rw [shape]
    exact List.cons_ne_nil _ _
  digits := ofNat_isAsciiDigit n

theorem isWhole_zero : IsWhole "0" where
  digits := ⟨by decide, by decide⟩
  plain := .inl rfl

/-- The digits of a number above zero, or the first of them, may stand before a point. -/
theorem isWhole_of_head {t : Text} {n : Nat} (positive : 0 < n) (digits : AreDigits t)
    (same : t.head? = (Text.ofNat n).head?) : IsWhole t where
  digits := digits
  plain := by
    obtain ⟨digit, tail, shape⟩ := digits_ofNat positive
    right
    rw [same]
    intro zero
    obtain ⟨rest, starts⟩ := List.head?_eq_some_iff.mp zero
    rw [starts, List.map_cons] at shape
    cases (List.cons.inj shape).1

/-- No digit of a text is read any more. -/
def EndsDigits (rest : Text) : Prop :=
  ∀ c ∈ rest.head?, c.isAsciiDigit = false

theorem readDigits_of_areDigits {digits rest : Text} (are : AreDigits digits)
    (ends : EndsDigits rest) :
    ∃ first others, digitValues digits = first :: others ∧
      readDigits (digits ++ rest) = (first :: others, rest) := by
  obtain ⟨c, tail, rfl⟩ := List.exists_cons_of_ne_nil are.some
  exact ⟨c.val - 0x30, digitValues tail, rfl, readDigits_append are.digits ends⟩

theorem readFraction?_pointText (fraction : Option Text)
    (point : ∀ digits ∈ fraction, AreDigits digits) {rest : Text} (ends : EndsDigits rest)
    (other : rest.head? ≠ some (CodePoint.ofChar '.')) :
    readFraction? (pointText fraction ++ rest) = some (fraction.map digitValues, rest) := by
  cases fraction with
  | none =>
    cases rest with
    | nil => rfl
    | cons c tail =>
      have plain : c ≠ CodePoint.ofChar '.' := by
        rintro rfl
        exact other rfl
      show readFraction? (c :: tail) = _
      unfold readFraction?
      simp only [if_neg plain]
      rfl
  | some digits =>
    obtain ⟨first, others, values, reads⟩ := readDigits_of_areDigits (point digits rfl) ends
    show readFraction? (CodePoint.ofChar '.' :: (digits ++ rest)) = _
    unfold readFraction?
    simp only [if_true, reads]
    rw [Option.map_some, values]

/-- The power of ten that is written. -/
def powerValue (power : Option (Bool × Text)) : Option Int :=
  power.map fun (negative, digits) =>
    let value : Int := Text.numeral 10 (digitValues digits)
    if negative then -value else value

theorem readExponent?_powerText {power : Option (Bool × Text)}
    (powers : ∀ exponent ∈ power, AreDigits exponent.2) {rest : Text} (closes : Closes rest) :
    readExponent? (powerText power ++ rest) = some (powerValue power, rest) := by
  cases power with
  | none => exact readExponent?_of_closes closes
  | some pair =>
    obtain ⟨negative, digits⟩ := pair
    obtain ⟨first, others, values, reads⟩ :=
      readDigits_of_areDigits (powers (negative, digits) rfl) closes.not_digit
    replace reads : readDigits (digits ++ rest) = (digitValues digits, rest) := by
      rw [values]
      exact reads
    cases negative with
    | true =>
      show readExponent? (CodePoint.ofChar 'e' :: CodePoint.ofChar '-' :: (digits ++ rest)) = _
      unfold readExponent? powerValue
      simp only [decide_true, Bool.true_or, if_true, reads, values, Option.map_some]
    | false =>
      have plus : CodePoint.ofChar '+' ≠ CodePoint.ofChar '-' := by decide
      show readExponent? (CodePoint.ofChar 'e' :: CodePoint.ofChar '+' :: (digits ++ rest)) = _
      unfold readExponent? powerValue
      simp only [decide_true, Bool.true_or, if_true, if_neg plus, reads, values, Option.map_some]

/-- The digits of a whole start with one above zero, or are a single zero. -/
theorem IsWhole.cases {whole : Text} (starts : IsWhole whole) :
    whole = "0" ∨ ∃ first others, digitValues whole = (first + 1) :: others := by
  rcases starts.plain with zero | other
  · exact .inl zero
  · right
    obtain ⟨c, tail, rfl⟩ := List.exists_cons_of_ne_nil starts.digits.some
    have bounds := bounds_of_isAsciiDigit (starts.digits.digits c List.mem_cons_self)
    have above : c.val ≠ 0x30 := by
      intro same
      refine other (congrArg some ?_)
      rw [← CodePoint.ofNat_val c, same]
      decide
    refine ⟨c.val - 0x31, digitValues tail, ?_⟩
    show (c.val - 0x30) :: digitValues tail = _
    congr 1
    omega

/-- The float of a sign, digits, digits after a point and a power of ten. -/
def floatOf (negative : Bool) (whole : List Nat) (fraction : Option (List Nat))
    (power : Option Int) : Binary64 :=
  (⟨negative, Text.numeral 10 (whole ++ fraction.getD []),
    power.getD 0 - (fraction.getD []).length⟩ : Decimal).toBinary64

/-- The number of a sign, digits, digits after a point and a power of ten: a whole number, if
neither of the last two is there. -/
def numberOf (negative : Bool) (whole : List Nat) (fraction : Option (List Nat))
    (power : Option Int) : Value :=
  match fraction, power with
  | none, none =>
    let value : Int := Text.numeral 10 whole
    .int (if negative then -value else value)
  | _, _ => .float (floatOf negative whole fraction power)

theorem numberOf_eq_float {fraction : Option (List Nat)} {power : Option Int}
    (either : fraction.isSome ∨ power.isSome) (negative : Bool) (whole : List Nat) :
    numberOf negative whole fraction power = .float (floatOf negative whole fraction power) := by
  unfold numberOf
  split
  · simp at either
  · rfl

/-- The digits before a point: a zero is read by itself. -/
def readWhole? (t : Text) : Option (List Nat × Text) :=
  match readDigits t with
  | ([], _) => none
  | (0 :: _, _) => some ([0], t.drop 1)
  | (digits, rest) => some (digits, rest)

theorem readWhole?_append {whole after : Text} (starts : IsWhole whole) (ends : EndsDigits after) :
    readWhole? (whole ++ after) = some (digitValues whole, after) := by
  have digits : readDigits (whole ++ after) = (digitValues whole, after) :=
    readDigits_append starts.digits.digits ends
  unfold readWhole?
  rw [digits]
  rcases starts.cases with rfl | ⟨first, others, values⟩
  · rfl
  · rw [values]
    rfl

/-- A number without its sign, part by part. -/
def readUnsigned (negative : Bool) (t : Text) : Option (Value × Text) :=
  (readWhole? t).bind fun (whole, t) =>
    (readFraction? t).bind fun (fraction, t) =>
      (readExponent? t).bind fun (power, t) => some (numberOf negative whole fraction power, t)

theorem readUnsigned_eq_some (negative : Bool) {t middle late rest : Text} {whole : List Nat}
    (starts : readWhole? t = some (whole, middle)) {fraction : Option (List Nat)}
    (point : readFraction? middle = some (fraction, late)) {power : Option Int}
    (powers : readExponent? late = some (power, rest)) :
    readUnsigned negative t = some (numberOf negative whole fraction power, rest) := by
  unfold readUnsigned
  simp only [starts, point, powers, Option.bind_some]

theorem readNumber_eq (t : Text) :
    readNumber t = if t.head? = some (CodePoint.ofChar '-') then readUnsigned true t.tail
      else readUnsigned false t := by
  have finish : ∀ (negative : Bool) (whole : List Nat) (t : Text), (do
      let (fraction, t) ← readFraction? t
      let (power, t) ← readExponent? t
      match fraction, power with
      | none, none =>
        let value : Int := Text.numeral 10 whole
        return (Value.int (if negative then -value else value), t)
      | _, _ => return (Value.float (floatOf negative whole fraction power), t)) =
      (readFraction? t).bind fun (fraction, t) => (readExponent? t).bind fun (power, t) =>
        some (numberOf negative whole fraction power, t) := by
    intro negative whole t
    refine Option.bind_congr fun (fraction, t) _ => Option.bind_congr fun (power, t) _ => ?_
    cases fraction <;> cases power <;> rfl
  cases t with
  | nil => rfl
  | cons c rest =>
    by_cases minus : c = CodePoint.ofChar '-'
    · subst minus
      show _ = readUnsigned true rest
      unfold readNumber readUnsigned readWhole?
      simp only [if_true]
      rcases readDigits rest with ⟨_ | ⟨_ | first, others⟩, after⟩
      · rfl
      · exact finish true [0] (rest.drop 1)
      · exact finish true ((first + 1) :: others) after
    · rw [if_neg (by simpa using minus)]
      unfold readNumber readUnsigned readWhole?
      simp only [if_neg minus]
      rcases readDigits (c :: rest) with ⟨_ | ⟨_ | first, others⟩, after⟩
      · rfl
      · exact finish false [0] rest
      · exact finish false ((first + 1) :: others) after

/-- A sign, digits, and what is read after them as a fraction and a power of ten are a number. -/
theorem readNumber_parts (negative : Bool) {whole after middle rest : Text}
    (starts : IsWhole whole) (ends : EndsDigits after) {fraction : Option (List Nat)}
    (point : readFraction? after = some (fraction, middle)) {power : Option Int}
    (powers : readExponent? middle = some (power, rest)) :
    readNumber (signText negative ++ (whole ++ after)) =
      some (numberOf negative (digitValues whole) fraction power, rest) := by
  have unsigned := fun negative => readUnsigned_eq_some negative
    (readWhole?_append starts ends) point powers
  cases negative with
  | true =>
    exact (readNumber_eq (CodePoint.ofChar '-' :: (whole ++ after))).trans (unsigned true)
  | false =>
    obtain ⟨c, tail, shape⟩ := List.exists_cons_of_ne_nil starts.digits.some
    have plain : c ≠ CodePoint.ofChar '-' := by
      rintro rfl
      exact absurd (starts.digits.digits _ (shape ▸ List.mem_cons_self)) (by decide)
    show readNumber (whole ++ after) = _
    rw [readNumber_eq, if_neg (by simpa [shape] using plain), unsigned]

theorem isWhole_ofNat (n : Nat) : IsWhole (Text.ofNat n) := by
  cases n with
  | zero => exact isWhole_zero
  | succ n => exact isWhole_of_head (Nat.succ_pos n) (areDigits_ofNat _) rfl

/-- A whole number is read back, where it is followed by what may follow a value. -/
theorem readNumber_ofInt (i : Int) {rest : Text} (closes : Closes rest) :
    readNumber (Text.ofInt i ++ rest) = some (.int i, rest) := by
  have shape : Text.ofInt i = signText (i < 0) ++ Text.ofNat i.natAbs := by
    unfold Text.ofInt signText
    by_cases negative : i < 0
    · simp only [negative, decide_true, if_true]
      rfl
    · simp only [negative, decide_false, if_false, Bool.false_eq_true]
      rfl
  have value : Text.numeral 10 (digitValues (Text.ofNat i.natAbs)) = i.natAbs :=
    numeral_ofNat i.natAbs
  rw [shape, List.append_assoc, readNumber_parts _ (isWhole_ofNat i.natAbs) closes.not_digit
    (readFraction?_of_closes closes) (readExponent?_of_closes closes)]
  unfold numberOf
  simp only [value, decide_eq_true_eq]
  congr 3
  split
  · omega
  · omega

/-- Digits with a fraction, a power of ten or both after them are read as a float. -/
theorem readNumber_float (negative : Bool) {whole after middle rest : Text}
    (starts : IsWhole whole) (ends : EndsDigits after) {fraction : Option (List Nat)}
    (point : readFraction? after = some (fraction, middle)) {power : Option Int}
    (powers : readExponent? middle = some (power, rest))
    (either : fraction.isSome ∨ power.isSome) :
    readNumber (signText negative ++ (whole ++ after)) =
      some (.float (floatOf negative (digitValues whole) fraction power), rest) := by
  rw [readNumber_parts negative starts ends point powers, numberOf_eq_float either]

theorem powerText_ends (power : Option (Bool × Text)) {rest : Text} (closes : Closes rest) :
    EndsDigits (powerText power ++ rest) ∧
      (powerText power ++ rest).head? ≠ some (CodePoint.ofChar '.') := by
  cases power with
  | none =>
    refine ⟨closes.not_digit, fun point => ?_⟩
    rcases closes _ point with same | same | same
    · exact absurd same (by decide)
    · exact absurd same (by decide)
    · exact absurd same (by decide)
  | some exponent =>
    refine ⟨fun c first => ?_, fun point => ?_⟩
    · cases first
      decide
    · exact absurd (Option.some.inj point) (by decide)

theorem pointText_ends (fraction : Option Text) {rest : Text} (ends : EndsDigits rest) :
    EndsDigits (pointText fraction ++ rest) := by
  cases fraction with
  | none => exact ends
  | some digits =>
    intro c first
    cases first
    decide

/-- **A float is read** from a text that is written for one, where it is followed by what may follow
a value. -/
theorem IsFloatText.reads {t : Text} (float : IsFloatText t) :
    ∃ x, ∀ rest, Closes rest → readNumber (t ++ rest) = some (.float x, rest) := by
  obtain @⟨negative, whole, starts, fraction, point, power, powers, either⟩ := float
  refine ⟨floatOf negative (digitValues whole) (fraction.map digitValues) (powerValue power),
    fun rest closes => ?_⟩
  obtain ⟨ends, other⟩ := powerText_ends power closes
  have either : (fraction.map digitValues).isSome ∨ (powerValue power).isSome := by
    unfold powerValue
    rwa [Option.isSome_map, Option.isSome_map]
  rw [List.append_assoc, List.append_assoc, List.append_assoc]
  exact readNumber_float negative starts (pointText_ends fraction ends)
    (readFraction?_pointText _ point ends other) (readExponent?_powerText powers closes) either

theorem AreDigits.bounds {t : Text} (digits : AreDigits t) :
    ∀ c ∈ t, 0x2D ≤ c.val ∧ c.val ≤ 0x39 := by
  intro c member
  have bounds := bounds_of_isAsciiDigit (digits.digits c member)
  omega

theorem plain_pointText {fraction : Option Text} (point : ∀ digits ∈ fraction, AreDigits digits) :
    ∀ c ∈ pointText fraction, 0x20 ≤ c.val ∧ c.val < 0x80 := by
  cases fraction with
  | none => exact nofun
  | some digits =>
    refine List.forall_mem_cons.mpr ⟨by decide, fun c member => ?_⟩
    have bounds := (point digits rfl).bounds c member
    omega

theorem plain_powerText {power : Option (Bool × Text)}
    (powers : ∀ exponent ∈ power, AreDigits exponent.2) :
    ∀ c ∈ powerText power, 0x20 ≤ c.val ∧ c.val < 0x80 := by
  cases power with
  | none => exact nofun
  | some exponent =>
    obtain ⟨negative, digits⟩ := exponent
    have sign : 0x20 ≤ (if negative then '-' else '+' : CodePoint).val ∧
        (if negative then '-' else '+' : CodePoint).val < 0x80 := by
      cases negative with
      | true => decide
      | false => decide
    refine List.forall_mem_cons.mpr ⟨by decide, List.forall_mem_cons.mpr ⟨sign, fun c member => ?_⟩⟩
    have bounds := (powers (negative, digits) rfl).bounds c member
    omega

/-- A float is written in ASCII without control characters. -/
theorem IsFloatText.plain {t : Text} (float : IsFloatText t) :
    ∀ c ∈ t, 0x20 ≤ c.val ∧ c.val < 0x80 := by
  obtain ⟨negative, starts, fraction, point, power, powers, -⟩ := float
  have sign : ∀ c ∈ signText negative, 0x20 ≤ c.val ∧ c.val < 0x80 := by
    cases negative with
    | true => decide
    | false => decide
  refine List.forall_mem_append.mpr ⟨sign, List.forall_mem_append.mpr ⟨fun c member => ?_,
    List.forall_mem_append.mpr ⟨plain_pointText point, plain_powerText powers⟩⟩⟩
  have bounds := starts.digits.bounds c member
  omega

/-- A float starts like a whole number. -/
theorem IsFloatText.starts {t : Text} (float : IsFloatText t) :
    ∃ c tail, t = c :: tail ∧ 0x2D ≤ c.val ∧ c.val ≤ 0x39 := by
  obtain ⟨negative, starts, fraction, -, power, -, -⟩ := float
  obtain ⟨c, tail, rfl⟩ := List.exists_cons_of_ne_nil starts.digits.some
  cases negative with
  | true => exact ⟨_, _, rfl, by decide⟩
  | false => exact ⟨c, _, rfl, starts.digits.bounds c List.mem_cons_self⟩

/-! ### Floats as they are written -/

theorem zeros_digits (n : Nat) : ∀ c ∈ Decimal.zeros n, c.isAsciiDigit := by
  intro c member
  rw [List.eq_of_mem_replicate member]
  decide

theorem areDigits_padLeft (width n : Nat) : AreDigits (Text.padLeft '0' width (Text.ofNat n)) where
  some := List.append_ne_nil_of_right_ne_nil _ (areDigits_ofNat n).some
  digits := List.forall_mem_append.mpr ⟨zeros_digits _, ofNat_isAsciiDigit n⟩

theorem areDigits_take {t : Text} (digits : AreDigits t) {n : Nat} (positive : 0 < n) :
    AreDigits (t.take n) where
  some := by
    simp [digits.some, Nat.ne_of_gt positive]
  digits c member := digits.digits c (List.mem_of_mem_take member)

theorem areDigits_drop {t : Text} (digits : AreDigits t) {n : Nat} (less : n < t.length) :
    AreDigits (t.drop n) where
  some := by
    simpa using less
  digits c member := digits.digits c (List.mem_of_mem_drop member)

theorem length_ofNat (n : Nat) : (Text.ofNat n).length = digitCount n :=
  List.length_map _

/-- The first digits of a number above zero may stand before a point. -/
theorem isWhole_take {n places : Nat} (positive : 0 < n) (some : 0 < places) :
    IsWhole ((Text.ofNat n).take places) := by
  refine isWhole_of_head positive (areDigits_take (areDigits_ofNat n) some) ?_
  rw [List.head?_take, if_neg (Nat.ne_of_gt some)]

/-- A decimal above zero is written as digits with a point. -/
theorem positional_eq (d : Decimal) (positive : 0 < d.coefficient) :
    ∃ whole fraction, IsWhole whole ∧ AreDigits fraction ∧
      d.positional = whole ++ (pointText (some fraction) ++ powerText none) := by
  have digits := areDigits_ofNat d.coefficient
  have count := length_ofNat d.coefficient
  unfold Decimal.positional
  simp only
  split
  · refine ⟨Text.ofNat d.coefficient ++ Decimal.zeros d.exponent.toNat, "0", ?_,
      isWhole_zero.digits, ?_⟩
    · refine isWhole_of_head positive (areDigits_append digits (zeros_digits _)) ?_
      rw [List.head?_append, List.head?_eq_some_head digits.some, Option.some_or]
    · rfl
  split
  · rename_i fraction inside
    have places : d.point.toNat < (Text.ofNat d.coefficient).length := by
      unfold Decimal.point at inside ⊢
      omega
    have some : 0 < d.point.toNat := by omega
    refine ⟨_, _, isWhole_take positive some, areDigits_drop digits places, ?_⟩
    rw [List.append_assoc]
    exact congrArg _ (List.append_nil _).symm
  · refine ⟨"0", Decimal.zeros d.point.natAbs ++ Text.ofNat d.coefficient, isWhole_zero, ?_, ?_⟩
    · exact ⟨List.append_ne_nil_of_right_ne_nil _ digits.some,
        List.forall_mem_append.mpr ⟨zeros_digits _, digits.digits⟩⟩
    · rw [List.append_assoc]
      exact congrArg _ (List.append_nil _).symm

theorem powerText_eq (power : Int) (digits : Text) :
    powerText (some (decide (power < 0), digits)) =
      "e" ++ (Text.ofString (if power < 0 then "-" else "+") ++ digits) := by
  unfold powerText
  by_cases below : power < 0
  · simp only [below, decide_true, if_true]
    rfl
  · simp only [below, decide_false, if_false, Bool.false_eq_true]
    rfl

/-- A decimal above zero is written as digits with a power of ten. -/
theorem scientific_eq (d : Decimal) (positive : 0 < d.coefficient) :
    ∃ whole fraction power, IsWhole whole ∧ (∀ digits ∈ fraction, AreDigits digits) ∧
      AreDigits (Prod.snd power) ∧
      d.scientific = whole ++ (pointText fraction ++ powerText (some power)) := by
  have digits := areDigits_ofNat d.coefficient
  have first := isWhole_take positive Nat.one_pos
  have power := areDigits_padLeft 2 (d.point - 1).natAbs
  -- The point is left out if no digit stands behind it.
  by_cases alone : (Text.ofNat d.coefficient).length = 1
  · refine ⟨_, none, (decide (d.point - 1 < 0), _), first, nofun, power, ?_⟩
    rw [powerText_eq]
    unfold Decimal.scientific
    simp only [if_pos alone, List.append_assoc]
    rfl
  · have occupied := List.length_pos_iff.mpr digits.some
    have after := areDigits_drop digits (n := 1) (by omega)
    refine ⟨_, some ((Text.ofNat d.coefficient).drop 1), (decide (d.point - 1 < 0), _), first, ?_,
      power, ?_⟩
    · rintro _ ⟨⟩
      exact after
    · rw [powerText_eq]
      unfold Decimal.scientific
      simp only [if_neg alone, List.append_assoc]
      rfl

/-- **A decimal is written as a float.** -/
theorem isFloatText_toText (d : Decimal) : IsFloatText d.toText := by
  unfold Decimal.toText
  split
  · refine .intro d.negative isWhole_zero (some "0") ?_ none nofun (.inl rfl)
    rintro _ ⟨⟩
    exact isWhole_zero.digits
  · rename_i nonzero
    have positive : 0 < d.coefficient := Nat.pos_of_ne_zero nonzero
    split
    · obtain ⟨whole, fraction, starts, point, shape⟩ := positional_eq d positive
      rw [shape]
      refine .intro d.negative starts (some fraction) ?_ none nofun (.inl rfl)
      rintro _ ⟨⟩
      exact point
    · obtain ⟨whole, fraction, power, starts, point, powers, shape⟩ := scientific_eq d positive
      rw [shape]
      refine .intro d.negative starts fraction point (some power) ?_ (.inr rfl)
      rintro _ ⟨⟩
      exact powers

end Json

end Courier
