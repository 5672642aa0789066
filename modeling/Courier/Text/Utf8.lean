/-
**UTF-8.**

A code point that is no surrogate has one to four bytes; a surrogate has none, and a text with one
cannot be encoded. Reading takes one code point at a time. Bytes that start no code point are cut
at the longest stretch that could have begun one, and that stretch is one error, so a lenient
reader puts one replacement character for each.

* `Utf8.decode?_encode`: what is written is read back.
* `Utf8.encode_isOk_iff`: a text can be encoded exactly when it holds no surrogate.
-/
import Courier.Text.Basic
namespace Courier

/-- Bytes, in order. -/
abbrev Bytes := List UInt8

/-- The byte of a number below 256. -/
def byte (n : Nat) : UInt8 :=
  UInt8.ofNat n

/-- A text cannot be written in a character encoding: the first stretch of code points that the
encoding lacks, from `start` up to and without `stop`. -/
structure Unencodable where
  /-- The name of the encoding. -/
  encoding : String
  /-- The first code point of the stretch. -/
  first : CodePoint
  start : Nat
  stop : Nat
  /-- Why the encoding lacks them. -/
  reason : String
  deriving DecidableEq

namespace CodePoint

/-- The UTF-8 bytes of a code point; of no use for a surrogate. -/
def utf8 (c : CodePoint) : Bytes :=
  let n := c.val
  if n < 0x80 then [byte n]
  else if n < 0x800 then [byte (0xC0 + n / 0x40), byte (0x80 + n % 0x40)]
  else if n < 0x10000 then
    [byte (0xE0 + n / 0x1000), byte (0x80 + n / 0x40 % 0x40), byte (0x80 + n % 0x40)]
  else
    [byte (0xF0 + n / 0x40000), byte (0x80 + n / 0x1000 % 0x40), byte (0x80 + n / 0x40 % 0x40),
      byte (0x80 + n % 0x40)]

end CodePoint

namespace Text

/-- The first stretch of code points that satisfy `p`: its position, its head, its length. -/
def firstRun (p : CodePoint → Bool) (t : Text) : Option (Nat × CodePoint × Nat) :=
  match t.dropWhile (fun c => !p c) with
  | [] => none
  | c :: rest => some ((t.takeWhile fun c => !p c).length, c, 1 + (rest.takeWhile p).length)

end Text

namespace Utf8

/-- The bytes of a text; a surrogate has none. -/
def encode (t : Text) : Except Unencodable Bytes :=
  match t.firstRun CodePoint.isSurrogate with
  | some (start, first, length) =>
    .error ⟨"utf-8", first, start, start + length, "surrogates not allowed"⟩
  | none => .ok (t.flatMap CodePoint.utf8)

/-- What a lead byte announces: how many bytes follow, the range of the first of them, and the
leading bits of the code point. -/
def lead? (b : UInt8) : Option (Nat × Nat × Nat × Nat) :=
  let n := b.toNat
  if n < 0xC2 then none
  else if n < 0xE0 then some (1, 0x80, 0xBF, n - 0xC0)
  else if n = 0xE0 then some (2, 0xA0, 0xBF, 0)
  else if n = 0xED then some (2, 0x80, 0x9F, 0xD)
  else if n < 0xF0 then some (2, 0x80, 0xBF, n - 0xE0)
  else if n = 0xF0 then some (3, 0x90, 0xBF, 0)
  else if n < 0xF4 then some (3, 0x80, 0xBF, n - 0xF0)
  else if n = 0xF4 then some (3, 0x80, 0x8F, 4)
  else none

/-- Reads `count` continuation bytes after the bits `value`, the first of them between `low` and
`high`; gives the code point's number, or nothing where a byte does not fit, and the bytes left. -/
def continuation (count low high value : Nat) (bytes : Bytes) : Option Nat × Bytes :=
  match count, bytes with
  | 0, rest => (some value, rest)
  | _ + 1, [] => (none, [])
  | count + 1, b :: rest =>
    if low ≤ b.toNat && b.toNat ≤ high then
      continuation count 0x80 0xBF (value * 0x40 + b.toNat % 0x40) rest
    else (none, b :: rest)

theorem length_continuation_le (count low high value : Nat) (bytes : Bytes) :
    (continuation count low high value bytes).2.length ≤ bytes.length := by
  fun_induction continuation count low high value bytes with
  | case1 => simp
  | case2 => simp
  | case3 _ _ _ _ _ _ _ ih => simp only [List.length_cons]; omega
  | case4 => simp

/-- Reads one code point that starts with `b`; nothing where the bytes start none. -/
def next (b : UInt8) (rest : Bytes) : Option CodePoint × Bytes :=
  if b.toNat < 0x80 then (some (CodePoint.ofNat b.toNat), rest)
  else
    match lead? b with
    | none => (none, rest)
    | some (count, low, high, value) =>
      let read := continuation count low high value rest
      (read.1.map CodePoint.ofNat, read.2)

theorem length_next_le (b : UInt8) (rest : Bytes) : (next b rest).2.length ≤ rest.length := by
  unfold next
  split
  · simp
  · split
    · simp
    · exact length_continuation_le ..

/-- The code points of the bytes, with nothing for each stretch that starts none. -/
def scan : Bytes → List (Option CodePoint)
  | [] => []
  | b :: rest =>
    have : (next b rest).2.length < rest.length + 1 :=
      Nat.lt_succ_of_le (length_next_le b rest)
    (next b rest).1 :: scan (next b rest).2
  termination_by bytes => bytes.length

/-- The text of well-formed bytes. -/
def decode? (bytes : Bytes) : Option Text :=
  (scan bytes).mapM id

/-- The text of any bytes, with a replacement character for each ill-formed stretch. -/
def decodeLossy (bytes : Bytes) : Text :=
  (scan bytes).map (·.getD CodePoint.replacement)

theorem next_utf8 {c : CodePoint} (scalar : c.isSurrogate = false) (rest : Bytes) :
    ∃ b tail, c.utf8 = b :: tail ∧ next b (tail ++ rest) = (some c, rest) := by
  obtain ⟨n, bound⟩ := c
  simp only [CodePoint.isSurrogate, Bool.and_eq_false_iff, decide_eq_false_iff_not] at scalar
  have self : CodePoint.ofNat n = ⟨n, bound⟩ := dif_pos bound
  have toNat : ∀ m, m < 256 → (byte m).toNat = m := fun m small => by
    simp only [byte, UInt8.toNat_ofNat']
    omega
  unfold CodePoint.utf8
  simp only
  split
  · exact ⟨_, [], rfl, by simp [next, toNat n (by omega), *]⟩
  split
  · have first := toNat (0xC0 + n / 0x40) (by omega)
    have second := toNat (0x80 + n % 0x40) (by omega)
    refine ⟨_, _, rfl, ?_⟩
    have announced : lead? (byte (0xC0 + n / 0x40)) = some (1, 0x80, 0xBF, n / 0x40) := by
      simp only [lead?, first]
      rw [if_neg (by omega), if_pos (by omega),
        show 0xC0 + n / 0x40 - 0xC0 = n / 0x40 by omega]
    have value : n / 0x40 * 0x40 + (0x80 + n % 0x40) % 0x40 = n := by omega
    rw [next, if_neg (by omega), announced]
    simp only [List.cons_append, List.nil_append, continuation, second, value]
    rw [if_pos (by simp only [Bool.and_eq_true, decide_eq_true_eq]; omega)]
    simp [self]
  split
  · have first := toNat (0xE0 + n / 0x1000) (by omega)
    have second := toNat (0x80 + n / 0x40 % 0x40) (by omega)
    have third := toNat (0x80 + n % 0x40) (by omega)
    refine ⟨_, _, rfl, ?_⟩
    have announced : ∃ low high, lead? (byte (0xE0 + n / 0x1000)) =
        some (2, low, high, n / 0x1000) ∧
        low ≤ 0x80 + n / 0x40 % 0x40 ∧ 0x80 + n / 0x40 % 0x40 ≤ high := by
      simp only [lead?, first]
      rw [if_neg (by omega), if_neg (by omega)]
      split
      · exact ⟨_, _, by rw [show n / 0x1000 = 0 by omega], by omega, by omega⟩
      split
      · exact ⟨_, _, by rw [show n / 0x1000 = 0xD by omega], by omega, by omega⟩
      rw [if_pos (by omega)]
      exact ⟨_, _, by rw [show 0xE0 + n / 0x1000 - 0xE0 = n / 0x1000 by omega], by omega, by omega⟩
    obtain ⟨low, high, announced, above, below⟩ := announced
    have value : (n / 0x1000 * 0x40 + (0x80 + n / 0x40 % 0x40) % 0x40) * 0x40
        + (0x80 + n % 0x40) % 0x40 = n := by omega
    rw [next, if_neg (by omega), announced]
    simp only [List.cons_append, List.nil_append, continuation, second, third, value]
    rw [if_pos (by simp only [Bool.and_eq_true, decide_eq_true_eq]; omega),
      if_pos (by simp only [Bool.and_eq_true, decide_eq_true_eq]; omega)]
    simp [self]
  · have first := toNat (0xF0 + n / 0x40000) (by omega)
    have second := toNat (0x80 + n / 0x1000 % 0x40) (by omega)
    have third := toNat (0x80 + n / 0x40 % 0x40) (by omega)
    have fourth := toNat (0x80 + n % 0x40) (by omega)
    refine ⟨_, _, rfl, ?_⟩
    have announced : ∃ low high, lead? (byte (0xF0 + n / 0x40000)) =
        some (3, low, high, n / 0x40000) ∧
        low ≤ 0x80 + n / 0x1000 % 0x40 ∧ 0x80 + n / 0x1000 % 0x40 ≤ high := by
      simp only [lead?, first]
      rw [if_neg (by omega), if_neg (by omega), if_neg (by omega), if_neg (by omega),
        if_neg (by omega)]
      split
      · exact ⟨_, _, by rw [show n / 0x40000 = 0 by omega], by omega, by omega⟩
      split
      · exact ⟨_, _, by rw [show 0xF0 + n / 0x40000 - 0xF0 = n / 0x40000 by omega], by omega,
          by omega⟩
      rw [if_pos (by omega)]
      exact ⟨_, _, by rw [show n / 0x40000 = 4 by omega], by omega, by omega⟩
    obtain ⟨low, high, announced, above, below⟩ := announced
    have value : ((n / 0x40000 * 0x40 + (0x80 + n / 0x1000 % 0x40) % 0x40) * 0x40
        + (0x80 + n / 0x40 % 0x40) % 0x40) * 0x40 + (0x80 + n % 0x40) % 0x40 = n := by omega
    rw [next, if_neg (by omega), announced]
    simp only [List.cons_append, List.nil_append, continuation, second, third, fourth, value]
    rw [if_pos (by simp only [Bool.and_eq_true, decide_eq_true_eq]; omega),
      if_pos (by simp only [Bool.and_eq_true, decide_eq_true_eq]; omega),
      if_pos (by simp only [Bool.and_eq_true, decide_eq_true_eq]; omega)]
    simp [self]

theorem scan_utf8_append {c : CodePoint} (scalar : c.isSurrogate = false) (rest : Bytes) :
    scan (c.utf8 ++ rest) = some c :: scan rest := by
  obtain ⟨b, tail, shape, read⟩ := next_utf8 scalar rest
  rw [shape, List.cons_append, scan, read]

theorem scan_flatMap {t : Text} (scalar : ∀ c ∈ t, c.isSurrogate = false) :
    scan (t.flatMap CodePoint.utf8) = t.map some := by
  induction t with
  | nil => simp [scan]
  | cons c rest ih =>
    rw [List.flatMap_cons, scan_utf8_append (scalar c (by simp)),
      ih fun d mem => scalar d (by simp [mem]), List.map_cons]

theorem dropWhile_eq_nil_iff {α : Type} {p : α → Bool} {l : List α} :
    l.dropWhile p = [] ↔ ∀ a ∈ l, p a = true := by
  induction l with
  | nil => simp
  | cons a rest ih => by_cases holds : p a <;> simp [holds, ih]

theorem firstRun_eq_none_iff {p : CodePoint → Bool} {t : Text} :
    t.firstRun p = none ↔ ∀ c ∈ t, p c = false := by
  unfold Text.firstRun
  constructor
  · intro nothing
    split at nothing
    · rename_i all
      have := dropWhile_eq_nil_iff.mp all
      intro c mem
      simpa using this c mem
    · cases nothing
  · intro all
    have dropped : t.dropWhile (fun c => !p c) = [] :=
      dropWhile_eq_nil_iff.mpr fun c mem => by simp [all c mem]
    rw [dropped]

theorem encode_eq_ok_iff {t : Text} {bytes : Bytes} :
    encode t = .ok bytes ↔
      (∀ c ∈ t, c.isSurrogate = false) ∧ bytes = t.flatMap CodePoint.utf8 := by
  unfold encode
  split
  · rename_i found
    constructor
    · intro same
      cases same
    · rintro ⟨scalar, -⟩
      rw [firstRun_eq_none_iff.mpr scalar] at found
      cases found
  · rename_i nothing
    constructor
    · intro same
      exact ⟨firstRun_eq_none_iff.mp nothing, (Except.ok.inj same).symm⟩
    · rintro ⟨-, rfl⟩
      rfl

theorem encode_isOk_iff {t : Text} :
    (∃ bytes, encode t = .ok bytes) ↔ ∀ c ∈ t, c.isSurrogate = false := by
  simp only [encode_eq_ok_iff]
  exact ⟨fun ⟨_, scalar, _⟩ => scalar, fun scalar => ⟨_, scalar, rfl⟩⟩

theorem decode?_encode {t : Text} {bytes : Bytes} (encoded : encode t = .ok bytes) :
    decode? bytes = some t := by
  obtain ⟨scalar, rfl⟩ := encode_eq_ok_iff.mp encoded
  rw [decode?, scan_flatMap scalar, List.mapM_map]
  simpa using List.mapM_pure (m := Option) (l := t) (f := id)

end Utf8

/-- The bytes of an ASCII text. -/
def encodeAscii (t : Text) : Except Unencodable Bytes :=
  match t.firstRun (fun c => !c.isAscii) with
  | some (start, first, length) =>
    .error ⟨"ascii", first, start, start + length, "ordinal not in range(128)"⟩
  | none => .ok (t.map fun c => byte c.val)

end Courier
