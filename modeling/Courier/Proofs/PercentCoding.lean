/-
**What percent coding keeps.**

From its front a text is a row of escapes and other code points. The coding keeps the escapes and
every plain code point and writes the bytes of the others, so what it writes stands for the bytes
of the row: one for each escape, the UTF-8 bytes of each other code point. These bytes are read as
the text itself if it holds no escape. An escape is three code points and one byte, and the bytes
between two code points never run together with theirs, so a text with an escape is read as a
shorter one.

* `Percent.Row`, `Percent.Writes`: a text as a row of escapes and other code points, and what is
  written for it.
* `Percent.encode_isOk_iff`: a text can be coded exactly if it holds no surrogate.
* `Percent.decode_encode_eq_iff`: it is read back exactly if it holds no escape.
-/
import Courier.Proofs.Results
import Courier.Url.Percent
import Mathlib.Algebra.Group.Nat.Defs
namespace Courier

/-! ### Lenient reading -/

namespace Utf8

variable {bytes more : Bytes}

/-- No byte of a continuation. -/
def IsStart (b : UInt8) : Prop :=
  b.toNat < 0x80 ∨ 0xC0 ≤ b.toNat

theorem isStart_utf8 {c : CodePoint} : ∃ b tail, c.utf8 = b :: tail ∧ IsStart b := by
  obtain ⟨n, bound⟩ := c
  unfold CodePoint.utf8 IsStart
  simp only [byte]
  split
  · exact ⟨_, _, rfl, by simp only [UInt8.toNat_ofNat']; omega⟩
  split
  · exact ⟨_, _, rfl, by simp only [UInt8.toNat_ofNat']; omega⟩
  split
  · exact ⟨_, _, rfl, by simp only [UInt8.toNat_ofNat']; omega⟩
  · exact ⟨_, _, rfl, by simp only [UInt8.toNat_ofNat']; omega⟩

/-- A continuation ends at the latest where a code point starts. -/
theorem continuation_append {b : UInt8} (starts : IsStart b) {low high : Nat} (least : 0x80 ≤ low)
    (most : high ≤ 0xBF) (count value : Nat) (bytes more : Bytes) :
    ∃ rest, (continuation count low high value (bytes ++ b :: more)).2 = rest ++ b :: more ∧
      rest.length ≤ bytes.length := by
  induction bytes generalizing count low high value with
  | nil =>
    refine ⟨[], ?_, Nat.le_refl _⟩
    cases count with
    | zero => rfl
    | succ count =>
      rw [List.nil_append, continuation, if_neg]
      simp only [Bool.and_eq_true, decide_eq_true_eq]
      unfold IsStart at starts
      omega
  | cons first others ih =>
    cases count with
    | zero => exact ⟨first :: others, rfl, Nat.le_refl _⟩
    | succ count =>
      rw [List.cons_append, continuation]
      split
      · obtain ⟨rest, reached, shorter⟩ := ih (Nat.le_refl _) (Nat.le_refl _) count _
        exact ⟨rest, reached, Nat.le_succ_of_le shorter⟩
      · exact ⟨first :: others, rfl, Nat.le_refl _⟩

theorem lead?_bounds {b : UInt8} {count low high value : Nat}
    (announced : lead? b = some (count, low, high, value)) : 0x80 ≤ low ∧ high ≤ 0xBF := by
  unfold lead? at announced
  simp only at announced
  grind

/-- One code point is read at the latest up to where another one starts. -/
theorem next_append {b : UInt8} (starts : IsStart b) (first : UInt8) (bytes more : Bytes) :
    ∃ rest, (next first (bytes ++ b :: more)).2 = rest ++ b :: more ∧
      rest.length ≤ bytes.length := by
  unfold next
  split
  · exact ⟨bytes, rfl, Nat.le_refl _⟩
  split
  · exact ⟨bytes, rfl, Nat.le_refl _⟩
  · rename_i announced
    obtain ⟨least, most⟩ := lead?_bounds announced
    exact continuation_append starts least most ..

/-- Bytes before the start of a code point are read by themselves, as no more code points than
they are. -/
theorem scan_append {b : UInt8} (starts : IsStart b) (bytes more : Bytes) :
    ∃ front, scan (bytes ++ b :: more) = front ++ scan (b :: more) ∧
      front.length ≤ bytes.length := by
  induction size : bytes.length using Nat.strongRecOn generalizing bytes with
  | ind size ih =>
    subst size
    cases bytes with
    | nil => exact ⟨[], rfl, Nat.le_refl _⟩
    | cons first others =>
      obtain ⟨rest, reached, shorter⟩ := next_append starts first others more
      obtain ⟨front, reads, fewer⟩ := ih rest.length (Nat.lt_succ_of_le shorter) rest rfl
      refine ⟨(next first (others ++ b :: more)).1 :: front, ?_, ?_⟩
      · rw [List.cons_append, scan, reached, reads, List.cons_append]
      · rw [List.length_cons, List.length_cons]
        omega

theorem length_scan_le (bytes : Bytes) : (scan bytes).length ≤ bytes.length := by
  induction size : bytes.length using Nat.strongRecOn generalizing bytes with
  | ind size ih =>
    subst size
    cases bytes with
    | nil => simp [scan]
    | cons first others =>
      have shorter := length_next_le first others
      have later := ih _ (Nat.lt_succ_of_le shorter) (next first others).2 rfl
      rw [scan, List.length_cons, List.length_cons]
      omega

/-- The value of a continuation lies among those that its first bits and bytes leave. -/
theorem continuation_bounds {count low high value n : Nat} {bytes rest : Bytes}
    (within : high ≤ 0xBF) (least : 0x80 ≤ low)
    (read : continuation (count + 1) low high value bytes = (some n, rest)) :
    (value * 0x40 + (low - 0x80)) * 0x40 ^ count ≤ n ∧
      n < (value * 0x40 + (high - 0x80) + 1) * 0x40 ^ count := by
  induction count generalizing low high value bytes with
  | zero =>
    cases bytes with
    | nil => cases read
    | cons b others =>
      rw [continuation] at read
      split at read
      · rename_i inside
        simp only [Bool.and_eq_true, decide_eq_true_eq] at inside
        rw [continuation] at read
        cases read
        omega
      · cases read
  | succ count ih =>
    cases bytes with
    | nil => cases read
    | cons b others =>
      rw [continuation] at read
      split at read
      · rename_i inside
        simp only [Bool.and_eq_true, decide_eq_true_eq] at inside
        obtain ⟨above, below⟩ := ih (Nat.le_refl _) (Nat.le_refl _) read
        constructor
        · refine Nat.le_trans ?_ above
          rw [Nat.pow_succ', ← Nat.mul_assoc]
          exact Nat.mul_le_mul_right _ (by omega)
        · refine Nat.lt_of_lt_of_le below ?_
          rw [Nat.pow_succ', ← Nat.mul_assoc]
          exact Nat.mul_le_mul_right _ (by omega)
      · cases read

/-- What a lead byte announces keeps the value away from the surrogates. -/
theorem lead?_spares {b : UInt8} {count low high value : Nat}
    (announced : lead? b = some (count, low, high, value)) :
    (count = 1 ∧ value < 0x20) ∨
      (count = 2 ∧ (value < 0xD ∨ 0xD < value ∨ (value = 0xD ∧ high = 0x9F))) ∨
      (count = 3 ∧ (0x90 ≤ low ∨ 0 < value)) := by
  unfold lead? at announced
  simp only at announced
  grind

/-- No surrogate is read from bytes. -/
theorem not_isSurrogate_of_next {first : UInt8} {c : CodePoint}
    (read : (next first bytes).1 = some c) : c.isSurrogate = false := by
  have apart : ∀ n, n < 0xD800 ∨ 0xDFFF < n → (CodePoint.ofNat n).isSurrogate = false := by
    intro n outside
    unfold CodePoint.ofNat
    split
    · simp only [CodePoint.isSurrogate, Bool.and_eq_false_iff, decide_eq_false_iff_not]
      omega
    · rfl
  unfold next at read
  split at read
  · cases read
    exact apart _ (.inl (by omega))
  split at read
  · cases read
  rename_i count low high value announced
  simp only at read
  cases read_bytes : continuation count low high value bytes with
  | mk found rest =>
    rw [read_bytes] at read
    obtain ⟨n, rfl, rfl⟩ := Option.map_eq_some_iff.mp read
    obtain ⟨least, most⟩ := lead?_bounds announced
    refine apart n ?_
    rcases lead?_spares announced with ⟨rfl, small⟩ | ⟨rfl, spared⟩ | ⟨rfl, large⟩
    all_goals
      have bounds := continuation_bounds most least read_bytes
      omega

theorem not_isSurrogate_of_scan {c : CodePoint} (listed : some c ∈ scan bytes) :
    c.isSurrogate = false := by
  induction size : bytes.length using Nat.strongRecOn generalizing bytes with
  | ind size ih =>
    subst size
    cases bytes with
    | nil => simp [scan] at listed
    | cons first others =>
      rw [scan, List.mem_cons] at listed
      rcases listed with here | later
      · exact not_isSurrogate_of_next here.symm
      · exact ih _ (Nat.lt_succ_of_le (length_next_le first others)) later rfl

theorem not_isSurrogate_of_decodeLossy {c : CodePoint} (member : c ∈ decodeLossy bytes) :
    c.isSurrogate = false := by
  obtain ⟨found, listed, rfl⟩ := List.mem_map.mp member
  cases found with
  | none => rfl
  | some c => exact not_isSurrogate_of_scan listed

end Utf8

namespace Percent

/-! ### Escapes -/

/-- An escape stands at the front. -/
def StartsEscape (t : Text) : Prop :=
  ∃ a b after, t = CodePoint.ofChar '%' :: a :: b :: after ∧ a.hexDigit?.isSome ∧ b.hexDigit?.isSome

/-- An escape stands somewhere. -/
def HasEscape (t : Text) : Prop :=
  ∃ front rest, t = front ++ rest ∧ StartsEscape rest

/-- A text as a row of escapes and other code points. -/
inductive Row : Text → Prop
  | done : Row []
  | escape {a b : CodePoint} {after : Text} (first : a.hexDigit?.isSome)
      (second : b.hexDigit?.isSome) (later : Row after) :
      Row (CodePoint.ofChar '%' :: a :: b :: after)
  | point {c : CodePoint} {rest : Text} (other : ¬ StartsEscape (c :: rest)) (later : Row rest) :
      Row (c :: rest)

/-- Every text is such a row. -/
theorem row (t : Text) : Row t := by
  induction size : t.length using Nat.strongRecOn generalizing t with
  | ind size ih =>
    subst size
    by_cases starts : StartsEscape t
    · obtain ⟨a, b, after, rfl, first, second⟩ := starts
      exact .escape first second (ih _ (by simp only [List.length_cons]; omega) after rfl)
    · cases t with
      | nil => exact .done
      | cons c rest => exact .point starts (ih _ (Nat.lt_succ_self _) rest rfl)

variable {safe : CodePoint → Bool} {t coded : Text} {bytes : Bytes}

/-! ### Coding -/

theorem encode_escape {a b : CodePoint} (first : a.hexDigit?.isSome) (second : b.hexDigit?.isSome)
    (after : Text) :
    encode safe (CodePoint.ofChar '%' :: a :: b :: after) =
      (encode safe after).map fun others => CodePoint.ofChar '%' :: a :: b :: others := by
  rw [encode]
  simp only [first, second, decide_true, Bool.and_self, if_true]
  rfl

theorem encode_point {c : CodePoint} {rest : Text} (other : ¬ StartsEscape (c :: rest)) :
    encode safe (c :: rest) = ((if isUnreserved c || safe c then .ok [c] else escape c) >>=
      fun first => (encode safe rest).map (first ++ ·)) := by
  rw [encode.eq_def]
  simp only
  split
  · rename_i a b after
    rw [if_neg]
    · split <;> rfl
    · simp only [Bool.and_eq_true, decide_eq_true_eq, not_and]
      rintro ⟨rfl, first⟩ second
      exact other ⟨a, b, after, rfl, first, second⟩
  · split <;> rfl

theorem isAscii_of_hexDigit? {c : CodePoint} (digit : c.hexDigit?.isSome) : c.isAscii := by
  unfold CodePoint.hexDigit? at digit
  refine decide_eq_true ?_
  grind

theorem isUnreserved_of_hexDigit? {c : CodePoint} (digit : c.hexDigit?.isSome) :
    isUnreserved c := by
  have ranges : (0x30 ≤ c.val ∧ c.val ≤ 0x39) ∨ (0x41 ≤ c.val ∧ c.val ≤ 0x46) ∨
      (0x61 ≤ c.val ∧ c.val ≤ 0x66) := by
    unfold CodePoint.hexDigit? at digit
    grind
  simp only [isUnreserved, CodePoint.isAsciiLetter, CodePoint.isAsciiDigit, Bool.or_eq_true,
    Bool.and_eq_true, decide_eq_true_eq]
  omega

theorem not_isSurrogate_of_isAscii {c : CodePoint} (ascii : c.isAscii) :
    c.isSurrogate = false := by
  have low : c.val < 0x80 := of_decide_eq_true ascii
  simp only [CodePoint.isSurrogate, Bool.and_eq_false_iff, decide_eq_false_iff_not]
  omega

theorem isAscii_of_isUnreserved {c : CodePoint} (plain : isUnreserved c) : c.isAscii := by
  have marks : ∀ m ∈ ("-._~" : Text), m.isAscii := by decide
  refine decide_eq_true ?_
  simp only [isUnreserved, CodePoint.isAsciiLetter, CodePoint.isAsciiDigit, Bool.or_eq_true,
    Bool.and_eq_true, decide_eq_true_eq] at plain
  rcases plain with ((((letter | digit) | rfl) | rfl) | rfl) | rfl
  · omega
  · omega
  all_goals decide

theorem escape_of_scalar {c : CodePoint} (scalar : c.isSurrogate = false) :
    escape c = .ok (c.utf8.flatMap escapeByte) := by
  have utf8 : Utf8.encode [c] = .ok c.utf8 :=
    Utf8.encode_eq_ok_iff.mpr ⟨List.forall_mem_singleton.mpr scalar, by simp⟩
  rw [escape, utf8]
  rfl

theorem scalar_of_escape {c : CodePoint} {written : Text} (wrote : escape c = .ok written) :
    c.isSurrogate = false := by
  obtain ⟨bytes, utf8, -⟩ := map_eq_ok_iff.mp wrote
  exact (Utf8.encode_eq_ok_iff.mp utf8).1 c (List.mem_singleton_self c)

/-- What is written for a text, and the bytes that both stand for. -/
inductive Writes (safe : CodePoint → Bool) : Text → Text → Bytes → Prop
  | done : Writes safe [] [] []
  | escape {a b : CodePoint} {high low : Nat} {after coded : Text} {bytes : Bytes}
      (first : a.hexDigit? = some high) (second : b.hexDigit? = some low)
      (later : Writes safe after coded bytes) :
      Writes safe (CodePoint.ofChar '%' :: a :: b :: after)
        (CodePoint.ofChar '%' :: a :: b :: coded) (byte (high * 16 + low) :: bytes)
  | plain {c : CodePoint} {rest coded : Text} {bytes : Bytes} (other : ¬ StartsEscape (c :: rest))
      (kept : (isUnreserved c || safe c) = true) (later : Writes safe rest coded bytes) :
      Writes safe (c :: rest) (c :: coded) (c.utf8 ++ bytes)
  | coded {c : CodePoint} {rest coded : Text} {bytes : Bytes} (other : ¬ StartsEscape (c :: rest))
      (foreign : (isUnreserved c || safe c) = false) (scalar : c.isSurrogate = false)
      (later : Writes safe rest coded bytes) :
      Writes safe (c :: rest) (c.utf8.flatMap escapeByte ++ coded) (c.utf8 ++ bytes)

theorem writes_of_encode (wrote : encode safe t = .ok coded) :
    ∃ bytes, Writes safe t coded bytes := by
  have shape := row t
  induction shape generalizing coded with
  | done =>
    cases wrote
    exact ⟨[], .done⟩
  | @escape a b after first second later ih =>
    rw [encode_escape first second, map_eq_ok_iff] at wrote
    obtain ⟨others, written, rfl⟩ := wrote
    obtain ⟨bytes, writes⟩ := ih written
    obtain ⟨high, first⟩ := Option.isSome_iff_exists.mp first
    obtain ⟨low, second⟩ := Option.isSome_iff_exists.mp second
    exact ⟨_, .escape first second writes⟩
  | @point c rest other later ih =>
    rw [encode_point other, bind_eq_ok_iff] at wrote
    obtain ⟨first, here, wrote⟩ := wrote
    obtain ⟨others, written, rfl⟩ := map_eq_ok_iff.mp wrote
    obtain ⟨bytes, writes⟩ := ih written
    cases kept : isUnreserved c || safe c with
    | true =>
      rw [kept, if_pos rfl] at here
      cases here
      exact ⟨_, .plain other kept writes⟩
    | false =>
      rw [kept, if_neg Bool.false_ne_true] at here
      have scalar := scalar_of_escape here
      rw [escape_of_scalar scalar] at here
      cases here
      exact ⟨_, .coded other kept scalar writes⟩

/-- A text without surrogates is written. -/
theorem exists_encode (safe : CodePoint → Bool) (scalar : ∀ c ∈ t, c.isSurrogate = false) :
    ∃ coded, encode safe t = .ok coded := by
  have shape := row t
  induction shape with
  | done => exact ⟨[], rfl⟩
  | @escape a b after first second later ih =>
    obtain ⟨coded, wrote⟩ := ih fun c member => scalar c (by simp [member])
    rw [encode_escape first second, wrote]
    exact ⟨_, rfl⟩
  | @point c rest other later ih =>
    obtain ⟨here, others⟩ := List.forall_mem_cons.mp scalar
    obtain ⟨coded, wrote⟩ := ih others
    rw [encode_point other, escape_of_scalar here, wrote]
    split <;> exact ⟨_, rfl⟩

/-- A text of which each code point is kept is written as it is. -/
theorem encode_of_kept (kept : ∀ c ∈ t, (isUnreserved c || safe c) = true) :
    encode safe t = .ok t := by
  have shape := row t
  induction shape with
  | done => rfl
  | escape first second _ ih =>
    rw [encode_escape first second, ih fun c member => kept c (by simp [member])]
    rfl
  | point other _ ih =>
    obtain ⟨here, later⟩ := List.forall_mem_cons.mp kept
    rw [encode_point other, if_pos here, ih later]
    rfl

namespace Writes

theorem scalar (writes : Writes safe t coded bytes) (ascii : ∀ c, safe c → c.isAscii) :
    ∀ c ∈ t, c.isSurrogate = false := by
  have digit : ∀ {c : CodePoint} {value : Nat}, c.hexDigit? = some value → c.isSurrogate = false :=
    fun known => not_isSurrogate_of_isAscii (isAscii_of_hexDigit? (known ▸ rfl))
  induction writes with
  | done => nofun
  | escape first second _ ih =>
    exact List.forall_mem_cons.mpr ⟨by decide, List.forall_mem_cons.mpr ⟨digit first,
      List.forall_mem_cons.mpr ⟨digit second, ih⟩⟩⟩
  | plain other kept _ ih =>
    refine List.forall_mem_cons.mpr ⟨not_isSurrogate_of_isAscii ?_, ih⟩
    exact (Bool.or_eq_true_iff.mp kept).elim isAscii_of_isUnreserved (ascii _)
  | coded other foreign scalar _ ih => exact List.forall_mem_cons.mpr ⟨scalar, ih⟩

end Writes

/-- A text can be coded exactly if it holds no surrogate. -/
theorem encode_isOk_iff (ascii : ∀ c, safe c → c.isAscii) :
    (∃ coded, encode safe t = .ok coded) ↔ ∀ c ∈ t, c.isSurrogate = false := by
  refine ⟨fun ⟨coded, wrote⟩ => ?_, exists_encode safe⟩
  obtain ⟨bytes, writes⟩ := writes_of_encode wrote
  exact writes.scalar ascii

/-! ### What is written -/

/-- The character of a hexadecimal digit. -/
def upperHex (d : Nat) : CodePoint :=
  CodePoint.ofChar (Nat.digitChar d).toUpper

theorem upperHex_spec : ∀ d < 16, (upperHex d).hexDigit? = some d ∧ isUnreserved (upperHex d) := by
  decide +kernel

/-- The escape of a byte is a percent sign and two digits. -/
theorem escapeByte_eq (b : UInt8) :
    escapeByte b = [CodePoint.ofChar '%', upperHex (b.toNat / 16), upperHex (b.toNat % 16)] := by
  have each : ∀ n < 256, Text.ofUpperHex 2 n = [upperHex (n / 16), upperHex (n % 16)] := by
    decide +kernel
  unfold escapeByte
  rw [each b.toNat b.toNat_lt]
  rfl

theorem utf8_ne_nil (c : CodePoint) : c.utf8 ≠ [] := by
  obtain ⟨b, tail, shape, -⟩ := Utf8.isStart_utf8 (c := c)
  rw [shape]
  nofun

theorem utf8_of_isAscii {c : CodePoint} (ascii : c.isAscii) : c.utf8 = [byte c.val] := by
  unfold CodePoint.utf8
  exact if_pos (of_decide_eq_true ascii)

namespace Writes

/-- What is written consists of escapes, unreserved code points and safe ones that were there. -/
theorem points (writes : Writes safe t coded bytes) :
    ∀ c ∈ coded, c = '%' ∨ isUnreserved c ∨ safe c ∧ c ∈ t := by
  have digit : ∀ {c : CodePoint} {value : Nat}, c.hexDigit? = some value → isUnreserved c :=
    fun known => isUnreserved_of_hexDigit? (known ▸ rfl)
  have later : ∀ {c d : CodePoint} {rest : Text}, (c = '%' ∨ isUnreserved c ∨ safe c ∧ c ∈ rest) →
      c = '%' ∨ isUnreserved c ∨ safe c ∧ c ∈ d :: rest :=
    fun point => point.imp_right (Or.imp_right (And.imp_right (List.mem_cons_of_mem _)))
  induction writes with
  | done => nofun
  | escape first second _ ih =>
    exact List.forall_mem_cons.mpr ⟨.inl rfl, List.forall_mem_cons.mpr
      ⟨.inr (.inl (digit first)), List.forall_mem_cons.mpr ⟨.inr (.inl (digit second)),
        fun c member => later (later (later (ih c member)))⟩⟩⟩
  | plain other kept _ ih =>
    refine List.forall_mem_cons.mpr ⟨.inr ?_, fun c member => later (ih c member)⟩
    exact (Bool.or_eq_true_iff.mp kept).imp_right fun safe => ⟨safe, List.mem_cons_self ..⟩
  | coded other foreign scalar _ ih =>
    refine List.forall_mem_append.mpr ⟨fun c member => ?_, fun c member => later (ih c member)⟩
    obtain ⟨b, -, inside⟩ := List.mem_flatMap.mp member
    have bound := b.toNat_lt
    simp only [escapeByte_eq, List.mem_cons, List.not_mem_nil, or_false] at inside
    rcases inside with rfl | rfl | rfl
    · exact .inl rfl
    · exact .inr (.inl (upperHex_spec _ (by omega)).2)
    · exact .inr (.inl (upperHex_spec _ (by omega)).2)

/-- Nothing gets shorter, and what keeps its length is kept. -/
theorem length_le (writes : Writes safe t coded bytes) :
    t.length ≤ coded.length ∧ (coded.length = t.length → coded = t) := by
  induction writes with
  | done => exact ⟨Nat.le_refl _, fun _ => rfl⟩
  | escape first second _ ih =>
    simp only [List.length_cons]
    refine ⟨by omega, fun same => ?_⟩
    rw [ih.2 (by omega)]
  | plain other kept _ ih =>
    simp only [List.length_cons]
    refine ⟨by omega, fun same => ?_⟩
    rw [ih.2 (by omega)]
  | @coded c rest coded bytes other foreign scalar later ih =>
    have longer : 3 ≤ (c.utf8.flatMap escapeByte).length := by
      obtain ⟨b, tail, shape⟩ := List.exists_cons_of_ne_nil (utf8_ne_nil c)
      rw [shape, List.flatMap_cons, escapeByte_eq, List.length_append]
      simp only [List.length_cons]
      omega
    rw [List.length_append, List.length_cons]
    exact ⟨by omega, fun same => by omega⟩

/-- What is written and does not start with an escape starts as the text does. -/
theorem head {c : CodePoint} {more : Text} (writes : Writes safe t (c :: more) bytes)
    (other : c ≠ '%') : ∃ rest bytes', t = c :: rest ∧ Writes safe rest more bytes' := by
  generalize shape : c :: more = written at writes
  cases writes with
  | done => cases shape
  | escape =>
    cases shape
    exact absurd rfl other
  | plain _ _ later =>
    cases shape
    exact ⟨_, _, rfl, later⟩
  | @coded d rest coded bytes =>
    obtain ⟨b, tail, first⟩ := List.exists_cons_of_ne_nil (utf8_ne_nil d)
    rw [first, List.flatMap_cons, escapeByte_eq] at shape
    exact absurd (List.cons.inj shape).1 other

theorem start {front more : Text} (writes : Writes safe t (front ++ more) bytes)
    (others : ∀ c ∈ front, c ≠ '%') : ∃ rest, t = front ++ rest := by
  induction front generalizing t bytes with
  | nil => exact ⟨t, rfl⟩
  | cons c front ih =>
    obtain ⟨here, later⟩ := List.forall_mem_cons.mp others
    obtain ⟨rest, _, rfl, written⟩ := writes.head here
    obtain ⟨last, rfl⟩ := ih written later
    exact ⟨last, rfl⟩

/-- What is kept at the front is written as it is. -/
theorem start_of_kept {front rest : Text} (writes : Writes safe (front ++ rest) coded bytes)
    (kept : ∀ c ∈ front, c ≠ '%' ∧ (isUnreserved c || safe c) = true) :
    ∃ more, coded = front ++ more := by
  induction front generalizing coded bytes with
  | nil => exact ⟨coded, rfl⟩
  | cons c front ih =>
    obtain ⟨here, later⟩ := List.forall_mem_cons.mp kept
    generalize shape : c :: front ++ rest = whole at writes
    cases writes with
    | done => cases shape
    | escape => exact absurd (List.cons.inj shape).1 here.1
    | plain _ _ written =>
      obtain ⟨rfl, rfl⟩ := List.cons.inj shape
      obtain ⟨more, rfl⟩ := ih written later
      exact ⟨more, rfl⟩
    | coded _ foreign =>
      rw [← (List.cons.inj shape).1, here.2] at foreign
      cases foreign

/-- No escape comes about where none was. -/
theorem not_startsEscape {c : CodePoint} {rest : Text} (writes : Writes safe rest coded bytes)
    (other : ¬ StartsEscape (c :: rest)) : ¬ StartsEscape (c :: coded) := by
  rintro ⟨a, b, after, shape, first, second⟩
  have plain : ∀ {d : CodePoint}, d.hexDigit?.isSome → d ≠ '%' := by
    rintro d digit rfl
    cases digit
  rw [List.cons.injEq] at shape
  obtain ⟨rfl, rfl⟩ := shape
  obtain ⟨rest, _, rfl, later⟩ := writes.head (plain first)
  obtain ⟨rest, _, rfl, -⟩ := later.head (plain second)
  exact other ⟨a, b, rest, rfl, first, second⟩

end Writes

/-! ### Decoding -/

theorem decodeBytes_escape {a b : CodePoint} {high low : Nat} (first : a.hexDigit? = some high)
    (second : b.hexDigit? = some low) (after : Text) :
    decodeBytes (CodePoint.ofChar '%' :: a :: b :: after) =
      byte (high * 16 + low) :: decodeBytes after := by
  rw [decodeBytes, if_pos rfl, first, second]

theorem decodeBytes_point {c : CodePoint} {rest : Text} (other : ¬ StartsEscape (c :: rest)) :
    decodeBytes (c :: rest) = byte c.val :: decodeBytes rest := by
  rw [decodeBytes.eq_def]
  simp only
  split
  · rename_i a b after
    split
    · rename_i high low first second
      split at first
      · rename_i percent
        exact absurd ⟨a, b, after, by rw [percent], first ▸ rfl, second ▸ rfl⟩ other
      · cases first
    · rfl
  · rfl

theorem decodeBytes_flatMap (bytes : Bytes) (rest : Text) :
    decodeBytes (bytes.flatMap escapeByte ++ rest) = bytes ++ decodeBytes rest := by
  induction bytes with
  | nil => rfl
  | cons b others ih =>
    have bound := b.toNat_lt
    have high := (upperHex_spec (b.toNat / 16) (by omega)).1
    have low := (upperHex_spec (b.toNat % 16) (by omega)).1
    have whole : byte (b.toNat / 16 * 16 + b.toNat % 16) = b := by
      rw [Nat.div_add_mod']
      exact UInt8.ofNat_toNat
    rw [List.flatMap_cons, escapeByte_eq, List.append_assoc, List.cons_append, List.cons_append,
      List.cons_append, List.nil_append, decodeBytes_escape high low, whole, ih, List.cons_append]

/-- What is written stands for the same bytes. -/
theorem Writes.decodeBytes_eq (writes : Writes safe t coded bytes)
    (ascii : ∀ c, safe c → c.isAscii) : decodeBytes coded = bytes := by
  induction writes with
  | done => rw [decodeBytes]
  | escape first second _ ih => rw [decodeBytes_escape first second, ih]
  | plain other kept later ih =>
    have low := (Bool.or_eq_true_iff.mp kept).elim isAscii_of_isUnreserved (ascii _)
    rw [decodeBytes_point (later.not_startsEscape other), ih, utf8_of_isAscii low]
    rfl
  | coded other foreign scalar _ ih => rw [decodeBytes_flatMap, ih]

/-- ASCII text with escapes is read from its bytes. -/
theorem decode_eq (ascii : ∀ c ∈ t, c.isAscii) : decode t = Utf8.decodeLossy (decodeBytes t) := by
  unfold decode
  split
  · rfl
  · rename_i absent
    have plain : decodeBytes t = t.flatMap CodePoint.utf8 := by
      induction t with
      | nil => rw [decodeBytes, List.flatMap_nil]
      | cons c rest ih =>
        obtain ⟨here, later⟩ := List.forall_mem_cons.mp ascii
        rw [List.contains_cons, Bool.or_eq_true, not_or] at absent
        have other : ¬ StartsEscape (c :: rest) := by
          rintro ⟨a, b, after, shape, -⟩
          exact absent.1 (by rw [(List.cons.inj shape).1]; rfl)
        rw [decodeBytes_point other, ih later absent.2, List.flatMap_cons, utf8_of_isAscii here]
        rfl
    have scalar : ∀ c ∈ t, c.isSurrogate = false := fun c member =>
      not_isSurrogate_of_isAscii (ascii c member)
    rw [plain, Utf8.decodeLossy, Utf8.scan_flatMap scalar, List.map_map]
    exact (List.map_id t).symm

/-- A code point that starts no escape is read as itself. -/
theorem decode_cons {c : CodePoint} {rest : Text} (ascii : ∀ d ∈ c :: rest, d.isAscii)
    (other : ¬ StartsEscape (c :: rest)) : decode (c :: rest) = c :: decode rest := by
  obtain ⟨here, later⟩ := List.forall_mem_cons.mp ascii
  have bytes : decodeBytes (c :: rest) = c.utf8 ++ decodeBytes rest := by
    rw [decodeBytes_point other, utf8_of_isAscii here, List.singleton_append]
  rw [decode_eq ascii, decode_eq later, bytes, Utf8.decodeLossy,
    Utf8.scan_utf8_append (not_isSurrogate_of_isAscii here)]
  rfl

theorem Writes.isAscii (writes : Writes safe t coded bytes) (ascii : ∀ c, safe c → c.isAscii) :
    ∀ c ∈ coded, c.isAscii := by
  intro c member
  rcases writes.points c member with rfl | plain | kept
  · decide
  · exact isAscii_of_isUnreserved plain
  · exact ascii c kept.1

/-- What is written is read as the bytes of the row. -/
theorem Writes.decode_eq (writes : Writes safe t coded bytes) (ascii : ∀ c, safe c → c.isAscii) :
    decode coded = Utf8.decodeLossy bytes := by
  rw [Percent.decode_eq (writes.isAscii ascii), writes.decodeBytes_eq ascii]

theorem hasEscape_cons {c : CodePoint} {rest : Text} (other : ¬ StartsEscape (c :: rest)) :
    HasEscape (c :: rest) ↔ HasEscape rest := by
  constructor
  · rintro ⟨front, last, shape, starts⟩
    cases front with
    | nil => exact absurd (shape ▸ starts) other
    | cons d front => exact ⟨front, last, (List.cons.inj shape).2, starts⟩
  · rintro ⟨front, last, rfl, starts⟩
    exact ⟨c :: front, last, rfl, starts⟩

theorem not_hasEscape_of_notMem (absent : CodePoint.ofChar '%' ∉ t) : ¬ HasEscape t := by
  rintro ⟨front, rest, rfl, a, b, after, rfl, -⟩
  exact absent (by simp)

theorem startsEscape_cons_iff {c d e : CodePoint} {more : Text} :
    StartsEscape (c :: d :: e :: more) ↔ c = '%' ∧ d.hexDigit?.isSome ∧ e.hexDigit?.isSome := by
  constructor
  · rintro ⟨a, b, after, shape, high, low⟩
    simp only [List.cons.injEq] at shape
    obtain ⟨rfl, rfl, rfl, -⟩ := shape
    exact ⟨rfl, high, low⟩
  · rintro ⟨rfl, high, low⟩
    exact ⟨d, e, more, rfl, high, low⟩

theorem startsEscape_append_slash {c : CodePoint} (rest : Text) :
    StartsEscape (c :: t ++ CodePoint.ofChar '/' :: rest) ↔ StartsEscape (c :: t) := by
  have slash : ¬ (CodePoint.ofChar '/').hexDigit?.isSome := by decide
  match t with
  | [] =>
    refine iff_of_false ?_ fun ⟨_, _, _, shape, _⟩ => nomatch shape
    rintro ⟨a, b, after, shape, high, -⟩
    exact slash ((List.cons.inj (List.cons.inj shape).2).1 ▸ high)
  | [d] =>
    refine iff_of_false ?_ fun ⟨_, _, _, shape, _⟩ => nomatch shape
    exact fun starts => slash (startsEscape_cons_iff.mp starts).2.2
  | d :: e :: more => exact startsEscape_cons_iff.trans startsEscape_cons_iff.symm

/-- An escape does not reach over a slash. -/
theorem hasEscape_append_slash (t rest : Text) :
    HasEscape (t ++ CodePoint.ofChar '/' :: rest) ↔ HasEscape t ∨ HasEscape rest := by
  have first : ¬ StartsEscape (CodePoint.ofChar '/' :: rest) := by
    rintro ⟨a, b, after, shape, -⟩
    exact absurd (List.cons.inj shape).1 (by decide)
  induction t with
  | nil =>
    rw [List.nil_append, hasEscape_cons first]
    exact (or_iff_right (not_hasEscape_of_notMem List.not_mem_nil)).symm
  | cons c t ih =>
    by_cases starts : StartsEscape (c :: t)
    · exact iff_of_true ⟨[], _, rfl, (startsEscape_append_slash rest).mpr starts⟩
        (.inl ⟨[], _, rfl, starts⟩)
    · rw [hasEscape_cons starts]
      exact (hasEscape_cons (mt (startsEscape_append_slash rest).mp starts)).trans ih

/-- Bytes before a code point add at most their number to what is read. -/
theorem length_scan_point {c : CodePoint} (scalar : c.isSurrogate = false) (pending bytes : Bytes) :
    (Utf8.scan (pending ++ (c.utf8 ++ bytes))).length ≤
      pending.length + 1 + (Utf8.scan bytes).length := by
  obtain ⟨b, tail, shape, starts⟩ := Utf8.isStart_utf8 (c := c)
  obtain ⟨front, reads, fewer⟩ := Utf8.scan_append starts pending (tail ++ bytes)
  have whole : c.utf8 ++ bytes = b :: (tail ++ bytes) := by rw [shape, List.cons_append]
  rw [whole, reads, ← whole, Utf8.scan_utf8_append scalar, List.length_append, List.length_cons]
  omega

/-- Read leniently, the bytes of a row are at most as many code points as the row is long, and
fewer if an escape is among them. The bytes of earlier escapes may stand before them. -/
theorem Writes.length_scan (writes : Writes safe t coded bytes)
    (scalar : ∀ c ∈ t, c.isSurrogate = false) (pending : Bytes) :
    (Utf8.scan (pending ++ bytes)).length ≤ pending.length + t.length ∧
      (HasEscape t → (Utf8.scan (pending ++ bytes)).length < pending.length + t.length) := by
  induction writes generalizing pending with
  | done =>
    rw [List.append_nil]
    exact ⟨Utf8.length_scan_le pending, fun escape =>
      absurd escape (not_hasEscape_of_notMem List.not_mem_nil)⟩
  | @escape a b high low after coded bytes first second later ih =>
    have fewer := (ih (fun c member => scalar c (by simp [member]))
      (pending ++ [byte (high * 16 + low)])).1
    rw [List.append_assoc, List.singleton_append, List.length_append, List.length_singleton]
      at fewer
    simp only [List.length_cons]
    exact ⟨by omega, fun _ => by omega⟩
  | @plain c rest coded bytes other _ _ ih | @coded c rest coded bytes other _ _ _ ih =>
    obtain ⟨here, others⟩ := List.forall_mem_cons.mp scalar
    have more := length_scan_point here pending bytes
    obtain ⟨fewer, strictly⟩ := ih others []
    rw [List.nil_append, List.length_nil, Nat.zero_add] at fewer strictly
    rw [hasEscape_cons other, List.length_cons]
    exact ⟨by omega, fun escape => by have less := strictly escape; omega⟩

/-- A row without escapes stands for the UTF-8 bytes of the text. -/
theorem Writes.bytes_eq (writes : Writes safe t coded bytes) (none : ¬ HasEscape t) :
    bytes = t.flatMap CodePoint.utf8 := by
  induction writes with
  | done => rfl
  | escape first second _ ih =>
    exact absurd ⟨[], _, rfl, _, _, _, rfl, first ▸ rfl, second ▸ rfl⟩ none
  | plain other _ _ ih | coded other _ _ _ ih =>
    rw [List.flatMap_cons, ← ih (fun later => none ((hasEscape_cons other).mpr later))]

/-- What was coded is read as a text of at most the same length, and as a shorter one if an escape
was in it. -/
theorem length_decode_encode (wrote : encode safe t = .ok coded)
    (ascii : ∀ c, safe c → c.isAscii) :
    (decode coded).length ≤ t.length ∧ (HasEscape t → (decode coded).length < t.length) := by
  obtain ⟨bytes, writes⟩ := writes_of_encode wrote
  have fewer := writes.length_scan (writes.scalar ascii) []
  rw [List.nil_append, List.length_nil, Nat.zero_add] at fewer
  rwa [writes.decode_eq ascii, Utf8.decodeLossy, List.length_map]

/-- **A text is read back** after coding exactly if it holds no escape. -/
theorem decode_encode_eq_iff (wrote : encode safe t = .ok coded)
    (ascii : ∀ c, safe c → c.isAscii) : decode coded = t ↔ ¬ HasEscape t := by
  constructor
  · intro back escape
    have shorter := (length_decode_encode wrote ascii).2 escape
    rw [back] at shorter
    exact Nat.lt_irrefl _ shorter
  · intro none
    obtain ⟨bytes, writes⟩ := writes_of_encode wrote
    rw [writes.decode_eq ascii, writes.bytes_eq none, Utf8.decodeLossy,
      Utf8.scan_flatMap (writes.scalar ascii), List.map_map]
    exact List.map_id t

/-- No surrogate is decoded. -/
theorem scalar_of_mem_decode {c : CodePoint} (ascii : ∀ c ∈ t, c.isAscii) (member : c ∈ decode t) :
    c.isSurrogate = false := by
  rw [decode_eq ascii] at member
  exact Utf8.not_isSurrogate_of_decodeLossy member

end Percent

end Courier
