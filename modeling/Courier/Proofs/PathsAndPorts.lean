/-
**Paths and ports are read back.**

A path that is read from a text loses its dot segments, and its escapes turn into what they stand
for, so it only ever gets shorter, and it is the text itself exactly if there was nothing to lose.
A port is read back from the number that is written for it.

* `Url.length_resolveDots`: dot segments make a path longer than its normal form.
* `Url.decode_resolveDots_eq_iff`: the paths that are read as they are written.
* `Integer.parse?_ofInt`: a whole number is read back, if it has not too many digits.
-/
import Courier.Proofs.JsonTokens
import Courier.Proofs.UrlParts
import Mathlib.Algebra.Order.BigOperators.Group.List
namespace Courier

namespace Url

/-! ### Dot segments -/

/-- A segment that stands for this segment or the one above. -/
def IsDots (segment : Text) : Prop :=
  segment = "." ∨ segment = ".."

instance : DecidablePred IsDots := fun _ => inferInstanceAs (Decidable (_ ∨ _))

/-- The length of segments, with a slash for each. -/
def weight (segments : List Text) : Nat :=
  (segments.map fun segment => segment.length + 1).sum

theorem length_join (segments : List Text) :
    (Text.join "/" segments).length = weight segments - 1 := by
  induction segments with
  | nil => rfl
  | cons segment rest ih =>
    cases rest with
    | nil => simp [weight, Text.join]
    | cons next others =>
      have positive : 0 < weight (next :: others) := by simp [weight]
      rw [Text.join_cons_cons, List.length_append, List.length_append, ih]
      have slash : (Text.ofString "/").length = 1 := rfl
      have whole : weight (segment :: next :: others) =
          segment.length + 1 + weight (next :: others) := rfl
      omega

/-- Dot segments go, and others may go with them. -/
theorem weight_resolveSegments (kept segments : List Text) :
    weight (resolveSegments kept segments) ≤ weight kept + weight segments ∧
      ((∃ segment ∈ segments, IsDots segment) →
        weight (resolveSegments kept segments) < weight kept + weight segments) := by
  induction segments generalizing kept with
  | nil =>
    have same : weight kept.reverse = weight kept := by
      unfold weight
      rw [List.map_reverse, List.sum_reverse]
    rw [resolveSegments, same]
    exact ⟨Nat.le_add_right .., nofun⟩
  | cons segment rest ih =>
    have whole : weight (segment :: rest) = segment.length + 1 + weight rest := rfl
    rw [resolveSegments, whole]
    split
    · obtain ⟨bound, -⟩ := ih kept
      exact ⟨by omega, fun _ => by omega⟩
    split
    · obtain ⟨bound, -⟩ := ih (if kept = [[]] then kept else kept.drop 1)
      have fewer : weight (if kept = [[]] then kept else kept.drop 1) ≤ weight kept := by
        split
        · exact Nat.le_refl _
        · cases kept with
          | nil => exact Nat.le_refl _
          | cons first others => exact Nat.le_add_left ..
      exact ⟨by omega, fun _ => by omega⟩
    · rename_i single double
      obtain ⟨bound, strictly⟩ := ih (segment :: kept)
      have grown : weight (segment :: kept) = segment.length + 1 + weight kept := rfl
      refine ⟨by omega, fun ⟨dots, listed, isDots⟩ => ?_⟩
      rcases List.mem_cons.mp listed with rfl | later
      · exact absurd isDots (not_or.mpr ⟨single, double⟩)
      · have less := strictly ⟨dots, later, isDots⟩
        omega

theorem resolveSegments_of_plain (kept : List Text) {segments : List Text}
    (plain : ∀ segment ∈ segments, ¬ IsDots segment) :
    resolveSegments kept segments = kept.reverse ++ segments := by
  induction segments generalizing kept with
  | nil => rw [resolveSegments, List.append_nil]
  | cons segment rest ih =>
    obtain ⟨here, later⟩ := List.forall_mem_cons.mp plain
    obtain ⟨single, double⟩ := not_or.mp here
    rw [resolveSegments, if_neg single, if_neg double, ih _ later, List.reverse_cons,
      List.append_assoc, List.singleton_append]

variable {t coded : Text}

/-- A path without dot segments is its own normal form. -/
theorem resolveDots_of_plain (plain : ∀ segment ∈ Text.splitOn '/' t, ¬ IsDots segment) :
    resolveDots t = t := by
  unfold resolveDots
  rw [resolveSegments_of_plain [] plain]
  exact Text.join_splitOn '/' t

/-- Dot segments make a path longer than its normal form. -/
theorem length_resolveDots (t : Text) : (resolveDots t).length ≤ t.length ∧
    ((∃ segment ∈ Text.splitOn '/' t, IsDots segment) →
      (resolveDots t).length < t.length) := by
  have whole : t.length = weight (Text.splitOn '/' t) - 1 := by
    rw [← length_join]
    exact congrArg List.length (Text.join_splitOn '/' t).symm
  obtain ⟨bound, strictly⟩ := weight_resolveSegments [] (Text.splitOn '/' t)
  have nothing : weight [] = 0 := rfl
  unfold resolveDots
  rw [length_join, whole]
  refine ⟨by omega, fun ⟨dots, listed, isDots⟩ => ?_⟩
  have less := strictly ⟨dots, listed, isDots⟩
  have long : dots.length + 1 ≤ weight (Text.splitOn '/' t) :=
    List.le_sum_of_mem (List.mem_map_of_mem listed)
  have some : 1 ≤ dots.length := by
    rcases isDots with rfl | rfl <;> decide
  omega

/-- **A path is read as it is written** exactly if it holds neither dot segments nor escapes. -/
theorem decode_resolveDots_eq_iff (wrote : encodePart pathSafe (resolveDots t) = .ok coded) :
    Percent.decode coded = t ↔
      (∀ segment ∈ Text.splitOn '/' t, ¬ IsDots segment) ∧ ¬ Percent.HasEscape t := by
  have visible : ∀ c, pathSafe c → c.isAscii := fun _ => visibleExcept_isAscii
  rw [encodePart_eq_ok_iff] at wrote
  obtain ⟨resolved, shorter⟩ := length_resolveDots t
  obtain ⟨read, fewer⟩ := Percent.length_decode_encode wrote visible
  constructor
  · intro back
    have length := congrArg List.length back
    have plain : ∀ segment ∈ Text.splitOn '/' t, ¬ IsDots segment := fun segment listed dots => by
      have less := shorter ⟨segment, listed, dots⟩
      omega
    refine ⟨plain, fun escape => ?_⟩
    rw [resolveDots_of_plain plain] at fewer
    have less := fewer escape
    omega
  · rintro ⟨plain, none⟩
    rw [resolveDots_of_plain plain] at wrote
    exact (Percent.decode_encode_eq_iff wrote visible).mpr none

/-- The normal form of a path starts with a slash where the path does, unless it is empty. -/
theorem resolveDots_slash (rest : Text) :
    resolveDots (CodePoint.ofChar '/' :: rest) = [] ∨
      ∃ more, resolveDots (CodePoint.ofChar '/' :: rest) = CodePoint.ofChar '/' :: more := by
  have above : ∀ (segments kept : List Text), ∃ others,
      resolveSegments (kept ++ [[]]) segments = [] :: others := by
    intro segments
    induction segments with
    | nil => exact fun kept => ⟨kept.reverse, by rw [resolveSegments]; simp⟩
    | cons segment segments ih =>
      intro kept
      rw [resolveSegments]
      split
      · exact ih kept
      split
      · split
        · exact ih kept
        · rename_i deeper
          cases kept with
          | nil => exact absurd rfl deeper
          | cons first others => exact ih others
      · exact ih (segment :: kept)
  obtain ⟨others, shape⟩ := above (Text.splitOn '/' rest) []
  have resolved : resolveDots (CodePoint.ofChar '/' :: rest) = Text.join "/" ([] :: others) := by
    unfold resolveDots
    rw [Text.splitOn_cons_self, resolveSegments, if_neg (by decide), if_neg (by decide)]
    exact congrArg (Text.join "/") shape
  rw [resolved]
  cases others with
  | nil => exact .inl rfl
  | cons next more => exact .inr ⟨_, rfl⟩

end Url

namespace Integer

/-! ### Ports -/

variable {t : Text} {i : Int}

theorem points_of_grouped? {digit : CodePoint → Option Nat} {values : List Nat}
    (read : grouped? digit t = some values) :
    (∀ c ∈ t, (digit c).isSome ∨ c = '_') ∧ ∀ value ∈ values, ∃ c ∈ t, digit c = some value := by
  fun_induction grouped? digit t generalizing values with
  | case1 => cases read
  | case2 => cases read
  | case3 c value first =>
    cases read
    exact ⟨by simp [first], by simp [first]⟩
  | case4 c value first after ih =>
    obtain ⟨others, later, rfl⟩ := Option.map_eq_some_iff.mp read
    obtain ⟨points, found⟩ := ih later
    refine ⟨by simpa [first] using points, ?_⟩
    intro number listed
    rcases List.mem_cons.mp listed with rfl | listed
    · exact ⟨c, List.mem_cons_self .., first⟩
    · obtain ⟨d, member, known⟩ := found number listed
      exact ⟨d, List.mem_cons_of_mem _ (List.mem_cons_of_mem _ member), known⟩
  | case5 c value first d after other ih =>
    obtain ⟨others, later, rfl⟩ := Option.map_eq_some_iff.mp read
    obtain ⟨points, found⟩ := ih later
    refine ⟨List.forall_mem_cons.mpr ⟨.inl (first ▸ rfl), points⟩, ?_⟩
    intro number listed
    rcases List.mem_cons.mp listed with rfl | listed
    · exact ⟨c, List.mem_cons_self .., first⟩
    · obtain ⟨e, member, known⟩ := found number listed
      exact ⟨e, List.mem_cons_of_mem _ member, known⟩

theorem mem_sign {c : CodePoint} (member : c ∈ t) : c = '-' ∨ c = '+' ∨ c ∈ (sign t).2 := by
  cases t with
  | nil => cases member
  | cons d rest =>
    unfold sign
    simp only
    split
    · rename_i minus
      rw [minus, List.mem_cons] at member
      exact member.imp_right .inr
    split
    · rename_i plus
      rw [plus, List.mem_cons] at member
      exact .inr member
    · exact .inr (.inr member)

theorem parse?_eq_some (read : parse? t = some i) :
    ∃ digits, grouped? CodePoint.decimalDigit? (sign t.strip).2 = some digits ∧
      digits.length ≤ maxDigits ∧ i = ofDigits (sign t.strip).1 digits := by
  unfold parse? at read
  simp only at read
  split at read
  · cases read
  rename_i digits grouped
  split at read
  · cases read
  rename_i short
  exact ⟨digits, grouped, Nat.le_of_not_lt short, (Option.some.inj read).symm⟩

/-- A whole number is read from digits, a sign, underscores and blanks. -/
theorem points_of_parse? (read : parse? t = some i) :
    ∀ c ∈ t, c.isBlank ∨ c = '-' ∨ c = '+' ∨ c.isDecimalDigit ∨ c = '_' := by
  obtain ⟨digits, grouped, -, -⟩ := parse?_eq_some read
  intro c member
  rcases Text.mem_strip_or_blank member with inside | blank
  · rcases mem_sign inside with minus | plus | unsigned
    · exact .inr (.inl minus)
    · exact .inr (.inr (.inl plus))
    · exact .inr (.inr (.inr ((points_of_grouped? grouped).1 c unsigned)))
  · exact .inl blank

theorem numeral_lt {values : List Nat} (digits : ∀ value ∈ values, value < 10) :
    Text.numeral 10 values < 10 ^ values.length := by
  induction values using List.reverseRecOn with
  | nil => exact Nat.one_pos
  | append_singleton values value ih =>
    obtain ⟨before, last⟩ := List.forall_mem_append.mp digits
    have less := ih before
    have small := last value (List.mem_singleton_self value)
    unfold Text.numeral at less ⊢
    rw [List.foldl_append, List.length_append, List.length_singleton, Nat.pow_succ]
    simp only [List.foldl_cons, List.foldl_nil]
    omega

theorem natAbs_lt_of_parse? (read : parse? t = some i) : i.natAbs < 10 ^ maxDigits := by
  obtain ⟨digits, grouped, short, rfl⟩ := parse?_eq_some read
  have small : ∀ value ∈ digits, value < 10 := fun value listed => by
    obtain ⟨c, -, known⟩ := (points_of_grouped? grouped).2 value listed
    exact CodePoint.decimalDigit?_lt known
  have less := Nat.lt_of_lt_of_le (numeral_lt small) (Nat.pow_le_pow_right (by decide) short)
  have abs : (ofDigits (sign t.strip).1 digits).natAbs = Text.numeral 10 digits := by
    unfold ofDigits
    split <;> simp
  rwa [abs]

/-- Digits alone are read as they stand. -/
theorem grouped?_of_areDigits {digits : Text} (are : Json.AreDigits digits) :
    grouped? CodePoint.decimalDigit? digits = some (digits.map fun c => c.val - 0x30) := by
  have known : ∀ t : Text, (∀ c ∈ t, c.isAsciiDigit) →
      t.mapM CodePoint.decimalDigit? = some (t.map fun c => c.val - 0x30) := by
    intro t digits
    induction t with
    | nil => rfl
    | cons c rest ih =>
      obtain ⟨here, later⟩ := List.forall_mem_cons.mp digits
      rw [List.mapM_cons, CodePoint.decimalDigit?_asciiDigit here, ih later]
      rfl
  exact grouped?_digits are.some (by decide) (known digits are.digits)

/-- Digits behind a sign, or behind none, are read. -/
theorem parse?_of_sign {digits : Text} {negative : Bool} (signed : sign t = (negative, digits))
    (solid : ∀ c ∈ t, c.isBlank = false) (are : Json.AreDigits digits)
    (short : digits.length ≤ maxDigits) :
    parse? t = some (ofDigits negative (digits.map fun c => c.val - 0x30)) := by
  have few : ¬ maxDigits < (digits.map fun c => c.val - 0x30).length := by
    rw [List.length_map]
    exact Nat.not_lt.mpr short
  unfold parse?
  rw [Text.strip_of_solid solid, signed]
  simp only [grouped?_of_areDigits are, if_neg few]

theorem isBlank_of_bounds {c : CodePoint} (low : 0x2D ≤ c.val) (high : c.val ≤ 0x39) :
    c.isBlank = false := by
  have solid : ∀ n < 0x3A, 0x2D ≤ n → inRanges blankRanges n = false := by decide
  exact solid c.val (Nat.lt_succ_of_le high) low

theorem points_of_ofInt (i : Int) : ∀ c ∈ Text.ofInt i, c = '-' ∨ c.isAsciiDigit := by
  unfold Text.ofInt
  split
  · exact List.forall_mem_cons.mpr ⟨.inl rfl, fun c member =>
      .inr (Json.ofNat_isAsciiDigit _ c member)⟩
  · exact fun c member => .inr (Json.ofNat_isAsciiDigit _ c member)

theorem length_ofNat_le {n : Nat} (short : n < 10 ^ maxDigits) :
    (Text.ofNat n).length ≤ maxDigits := by
  unfold Text.ofNat
  rw [List.length_map]
  exact (Nat.length_toDigits_le_iff (by decide) (by decide)).mpr short

/-- Digits have no sign. -/
theorem sign_of_areDigits {digits : Text} (are : Json.AreDigits digits) :
    sign digits = (false, digits) := by
  obtain ⟨c, tail, rfl⟩ := List.exists_cons_of_ne_nil are.some
  have bounds := Json.bounds_of_isAsciiDigit (are.digits c List.mem_cons_self)
  have unsigned : c ≠ '-' ∧ c ≠ '+' := by
    refine ⟨?_, ?_⟩
    all_goals
      rintro rfl
      revert bounds
      decide
  rw [sign, if_neg unsigned.1, if_neg unsigned.2]

/-- **A whole number is read back**, if it has not too many digits. -/
theorem parse?_ofInt (short : i.natAbs < 10 ^ maxDigits) : parse? (Text.ofInt i) = some i := by
  have solid : ∀ c ∈ Text.ofInt i, c.isBlank = false := fun c member =>
    isBlank_of_bounds (Json.ofInt_bounds i c member).1 (Json.ofInt_bounds i c member).2
  have are := Json.areDigits_ofNat i.natAbs
  have read : ∀ negative, sign (Text.ofInt i) = (negative, Text.ofNat i.natAbs) →
      parse? (Text.ofInt i) = some (if negative then -(i.natAbs : Int) else i.natAbs) := by
    intro negative signed
    rw [parse?_of_sign signed solid are (length_ofNat_le short)]
    unfold ofDigits
    rw [Json.numeral_ofNat]
  by_cases negative : i < 0
  · have signed : sign (Text.ofInt i) = (true, Text.ofNat i.natAbs) := by
      unfold Text.ofInt
      rw [if_pos negative]
      rfl
    rw [read true signed, if_pos rfl]
    exact congrArg some (by omega)
  · have signed : sign (Text.ofInt i) = (false, Text.ofNat i.natAbs) := by
      unfold Text.ofInt
      rw [if_neg negative, sign_of_areDigits are]
    rw [read false signed, if_neg Bool.false_ne_true]
    exact congrArg some (by omega)

end Integer

end Courier
