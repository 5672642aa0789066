/-
**A plain duration in either header.**

A server can order a wait in the plain back-off header, or limit everything in the header with
categories. With the same plain duration the two say the same. They do not leave the same instants
behind: a negative duration is no delay at all in the one and an instant in the past in the other.
But such instants have both passed, and instants that have passed say nothing, now or after
anything that is told later.

* `Seconds.isPlain_of_parse`: the code points of a plain duration.
* `Limits.Alike`: limits that differ only in instants that have passed.
* `Limits.Alike.indistinguishable`: whatever both are told, nobody can tell them apart.
* `Limits.durations_interchange`: the two headers compared.
-/
import Courier.Proofs.HeaderEntries
import Courier.Proofs.LimitHistory
namespace Courier

/-! ### The text of a duration -/

namespace Seconds

/-- A code point that a plain duration may hold between the blanks around it. -/
def IsPlain (c : CodePoint) : Prop :=
  c = '-' ∨ c = '+' ∨ c = '.' ∨ c.isDecimalDigit

theorem isDecimalDigit_of_digits? {t : Text} {values : List Nat} (digits : digits? t = some values) :
    ∀ c ∈ t, c.isDecimalDigit := by
  induction t generalizing values with
  | nil => nofun
  | cons c rest ih =>
    unfold digits? at digits
    simp only [List.mapM_cons, Option.bind_eq_bind, Option.bind_eq_some_iff, Option.pure_def,
      Option.some.injEq] at digits
    obtain ⟨value, first, others, later, -⟩ := digits
    refine List.forall_mem_cons.mpr ⟨?_, ih later⟩
    unfold CodePoint.isDecimalDigit
    rw [first]
    rfl

theorem isPlain_of_unsigned? {t : Text} {digits : List Nat × List Nat}
    (reads : unsigned? t = some digits) : ∀ c ∈ t, IsPlain c := by
  unfold unsigned? at reads
  rcases Text.cut_cases '.' t with ⟨-, cut⟩ | ⟨before, after, -, rfl, cut⟩
  · rw [cut] at reads
    simp only [Option.bind_eq_bind, Option.bind_eq_some_iff] at reads
    obtain ⟨whole, read, -⟩ := reads
    exact fun c member => .inr (.inr (.inr (isDecimalDigit_of_digits? read c member)))
  · rw [cut] at reads
    simp only [Option.bind_eq_bind, Option.bind_eq_some_iff] at reads
    obtain ⟨whole, front, fraction, back, -⟩ := reads
    intro c member
    rcases List.mem_append.mp member with left | right
    · exact .inr (.inr (.inr (isDecimalDigit_of_digits? front c left)))
    rcases List.mem_cons.mp right with point | right
    · exact .inr (.inr (.inl point))
    · exact .inr (.inr (.inr (isDecimalDigit_of_digits? back c right)))

theorem isPlain_of_decimal? {t : Text} {decimal : Decimal} (reads : decimal? t = some decimal) :
    ∀ c ∈ t, IsPlain c := by
  unfold decimal? at reads
  obtain ⟨digits, unsigned, -⟩ := Option.map_eq_some_iff.mp reads
  have plain := isPlain_of_unsigned? unsigned
  cases t with
  | nil => nofun
  | cons c rest =>
    simp only at plain
    split at plain
    · rename_i minus
      exact List.forall_mem_cons.mpr ⟨.inl minus, plain⟩
    split at plain
    · rename_i plus
      exact List.forall_mem_cons.mpr ⟨.inr (.inl plus), plain⟩
    · exact plain

/-- A plain duration holds digits, a sign, a point, and blanks around them. -/
theorem isPlain_of_parse {value : Text} {seconds : Binary64} (plain : parse value = .ok seconds) :
    ∀ c ∈ value, IsPlain c ∨ c.isBlank := by
  unfold parse at plain
  split at plain
  · cases plain
  · rename_i decimal reads
    exact fun c member =>
      (Text.mem_strip_or_blank member).imp_left (isPlain_of_decimal? reads c)

/-- What is neither blank nor a digit, a sign or a point is not in a plain duration. -/
theorem notMem_of_parse {value : Text} {seconds : Binary64} (plain : parse value = .ok seconds)
    {mark : CodePoint} (other : ¬ IsPlain mark) (solid : mark.isBlank = false) : mark ∉ value := by
  intro member
  rcases isPlain_of_parse plain mark member with digit | blank
  · exact other digit
  · rw [solid] at blank
    cases blank

theorem comma_not_isPlain : ¬ IsPlain ',' := by
  unfold IsPlain
  decide

theorem colon_not_isPlain : ¬ IsPlain ':' := by
  unfold IsPlain
  decide

end Seconds

namespace Limits

/-! ### Limits that nobody can tell apart -/

section

variable {now : Int} {first second : Limits Int}

/-- From an instant on, whatever both are told, as much remains of every limit. -/
def Indistinguishable (now : Int) (first second : Limits Int) : Prop :=
  ∀ (further : List (Told Int)) (later : Int), now ≤ later → ∀ category,
    (absorbAll further first).remaining? later category =
      (absorbAll further second).remaining? later category

/-- The limits have the same instants, but for instants that have passed in both. -/
def Alike (now : Int) (first second : Limits Int) : Prop :=
  ∀ category, first.reset? category = second.reset? category ∨
    ((first.reset? category).getD 0 ≤ now ∧ (second.reset? category).getD 0 ≤ now)

/-- Instants that have passed do not count. -/
theorem Alike.remaining? (alike : Alike now first second) {later : Int} (bound : now ≤ later)
    (category : Category) : first.remaining? later category = second.remaining? later category := by
  have until_eq : ∀ limits : Limits Int, limits.limitedUntil category =
      max ((limits.reset? category).getD 0) ((limits.reset? .any).getD 0) :=
    fun limits => (max_def_lt ..).symm
  show (if 0 < first.limitedUntil category - later
      then some (first.limitedUntil category - later) else none) =
    if 0 < second.limitedUntil category - later
      then some (second.limitedUntil category - later) else none
  rw [until_eq, until_eq]
  rcases alike category with own | own <;> rcases alike .any with any | any <;> grind

/-- What is written is the same in both, and what is not is left as it was. -/
theorem Alike.absorbAll (alike : Alike now first second) (further : List (Told Int)) :
    Alike now (absorbAll further first) (absorbAll further second) := by
  intro category
  rw [reset?_absorbAll, reset?_absorbAll]
  cases lastWritten? category further with
  | some instant => exact .inl rfl
  | none => exact alike category

theorem Alike.indistinguishable (alike : Alike now first second) :
    Indistinguishable now first second :=
  fun further _ bound category => (alike.absorbAll further).remaining? bound category

end

/-! ### One duration in two headers -/

section

variable {value : Text} {seconds : Binary64}

/-- An entry that is a plain duration, alone or with an empty scope, limits everything. -/
theorem reset?_afterHeader_of_entry {raw : Text} (single : CodePoint.ofChar ',' ∉ raw)
    (lasts : Lasts raw seconds) (blank : scopeText raw = []) (now : Int) (limits : Limits Int)
    (category : Category) :
    (limits.afterHeader now raw).reset? category =
      if category = .any then some (now + TimeScale.ofSeconds seconds)
      else limits.reset? category := by
  have names : Names raw category ↔ category = .any := by
    unfold Names
    rw [blank]
    rfl
  unfold afterHeader entries
  rw [Text.splitOn_of_notMem single]
  show (enter now limits (Entry.ofText raw)).reset? category = _
  by_cases any : category = .any
  · rw [if_pos any, reset?_enter lasts (names.mpr any)]
  · rw [if_neg any, reset?_enter_of_silent fun _ _ named => any (names.mp named)]

/-- A finite number of seconds, or none if it is negative, ends at the same instant or has ended. -/
theorem ofSeconds_larger (finite : seconds.isFinite) :
    (TimeScale.ofSeconds (seconds.larger 0) : Int) = TimeScale.ofSeconds seconds ∨
      ((TimeScale.ofSeconds (seconds.larger 0) : Int) = 0 ∧
        (TimeScale.ofSeconds seconds : Int) < 0) := by
  cases seconds with
  | nan => cases finite
  | infinite negative => cases finite
  | finite negative units =>
    have zero : (0 : Binary64) = .finite false 0 := by decide +kernel
    unfold Binary64.larger
    rw [zero]
    split
    · rename_i below
      exact .inr ⟨rfl, Binary64.lt_iff_of_finite.mp below⟩
    · exact .inl rfl

theorem afterRetryAfter_of_parse (plain : Seconds.parse value = .ok seconds) (now wall : Int)
    (limits : Limits Int) :
    limits.afterRetryAfter now wall value = .ok (limits.backOff now (seconds.larger 0)) := by
  unfold afterRetryAfter
  rw [RetryAfter.read_seconds ((parse_strip value).trans plain)]
  rfl

/-- An entry of a duration and an empty scope leaves limits that are like those after a back-off. -/
theorem alike_of_entry (plain : Seconds.parse value = .ok seconds) {raw : Text}
    (single : CodePoint.ofChar ',' ∉ raw) (duration : (raw.cut ':').1 = value)
    (blank : scopeText raw = []) (now : Int) (limits : Limits Int) :
    Alike now (limits.backOff now (seconds.larger 0)) (limits.afterHeader now raw) := by
  have lasts : Lasts raw seconds := by
    unfold Lasts
    rw [duration, plain]
  intro category
  rw [reset?_backOff, reset?_afterHeader_of_entry single lasts blank]
  by_cases any : category = .any
  · rw [if_pos any, if_pos any, Option.getD_some, Option.getD_some]
    rcases ofSeconds_larger (Seconds.parse_isFinite plain) with same | ⟨none, past⟩
    · exact .inl (by rw [same])
    · exact .inr (by omega)
  · rw [if_neg any, if_neg any]
    exact .inl rfl

/-- How a plain duration compares in the two headers, read at one time. -/
structure Interchanges (now wall : Int) (value : Text) (limits : Limits Int) : Prop where
  /-- The header with categories may hold the duration alone. -/
  alone : ∃ backedOff limited,
    limits.perform ⟨now, wall, .retryAfter value⟩ = .ok backedOff ∧
      limits.perform ⟨now, wall, .header value⟩ = .ok limited ∧
        Indistinguishable now backedOff limited
  /-- It may also hold an empty list of categories, and a scope. -/
  withScope : ∀ scope : Text, CodePoint.ofChar ',' ∉ scope → ∃ backedOff limited,
    limits.perform ⟨now, wall, .retryAfter value⟩ = .ok backedOff ∧
      limits.perform ⟨now, wall, .header (value ++ "::" ++ scope)⟩ = .ok limited ∧
        Indistinguishable now backedOff limited
  /-- A refusal without a header says what a back-off of sixty seconds says. -/
  minute : ∃ refused backedOff, limits.perform ⟨now, wall, .refusal⟩ = .ok refused ∧
    limits.perform ⟨now, wall, .retryAfter "60"⟩ = .ok backedOff ∧
      Indistinguishable now refused backedOff

/-- **A plain duration says the same in either header**, on the scale of exact times, whatever was
limited before and whatever is told later. -/
theorem durations_interchange (plain : Seconds.parse value = .ok seconds) (now wall : Int)
    (limits : Limits Int) : Interchanges now wall value limits := by
  have comma := Seconds.notMem_of_parse plain Seconds.comma_not_isPlain (by decide)
  have colon := Seconds.notMem_of_parse plain Seconds.colon_not_isPlain (by decide)
  have backsOff := afterRetryAfter_of_parse plain now wall limits
  refine ⟨⟨_, _, backsOff, rfl, ?_⟩, fun scope single => ⟨_, _, backsOff, rfl, ?_⟩, ?_⟩
  · have cut := Text.cut_of_notMem colon
    have blank : scopeText value = [] := by
      unfold scopeText
      rw [cut]
      rfl
    exact (alike_of_entry plain comma (congrArg Prod.fst cut) blank now limits).indistinguishable
  · have shape : value ++ "::" ++ scope =
        value ++ CodePoint.ofChar ':' :: CodePoint.ofChar ':' :: scope := by
      rw [List.append_assoc]
      rfl
    rw [shape]
    have cut := Text.cut_append colon (CodePoint.ofChar ':' :: scope)
    refine (alike_of_entry plain ?_ (congrArg Prod.fst cut) ?_ now limits).indistinguishable
    · simp [comma, single]
    · unfold scopeText
      rw [cut, Option.map_some, Option.getD_some, Text.cut_cons, if_pos rfl]
  · have sixty : Seconds.parse "60" = .ok 60 := by decide +kernel
    have same : (60 : Binary64).larger 0 = RetryAfter.fallback := by decide +kernel
    have backsOff := afterRetryAfter_of_parse sixty now wall limits
    rw [same] at backsOff
    exact ⟨_, _, rfl, backsOff, fun _ _ _ _ => rfl⟩

/-- Limits on errors and on everything, which have not ended after one second. -/
def bothLimited : Limits Int :=
  ((empty.write .error (exactSeconds 30)).write .any (exactSeconds 60))

/-- A negative duration takes back the limit on everything in either header. The instants that are
left behind differ, and errors are still limited by their own. -/
theorem takingBack_interchanges :
    Interchanges (exactSeconds 1) 0 " -1.5\t" bothLimited ∧
      (bothLimited.perform ⟨exactSeconds 1, 0, .retryAfter " -1.5\t"⟩).map (·.reset? .any) ≠
        (bothLimited.perform ⟨exactSeconds 1, 0, .header " -1.5\t"⟩).map (·.reset? .any) := by
  have plain : Seconds.parse " -1.5\t" = .ok (.ofRatio true 3 2) := by decide +kernel
  exact ⟨durations_interchange plain (exactSeconds 1) 0 bothLimited, by decide +kernel⟩

end

end Limits

end Courier
