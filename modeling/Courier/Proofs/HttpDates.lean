/-
**Dates are read as the instants they name.**

A date in a header shows what a clock in some zone shows at an instant, and how far that zone is
ahead of universal time or behind it. Whatever the zone, the date is read as the instant, so that a
server that orders to wait until then is obeyed to the microsecond.

* `Integer.parse?_padded`: a number that is filled up with zeros is read back.
* `HttpDate.zoneNumber?_text`: a zone is read as its offset.
* `HttpDate.fields?_write`: the fields of a date that is written.
* `HttpDate.epochSeconds_write`: the instant that it names.
* `RetryAfter.date_awaited`: the wait that it orders.
-/
import Courier.Proofs.BackOff
import Courier.Proofs.Ordinals
import Courier.Proofs.PathsAndPorts
import Courier.Proofs.PlainDelays
namespace Courier

/-! ### Numbers filled up with zeros -/

namespace Text

theorem numeral_append (base : Nat) (first second : List Nat) :
    numeral base (first ++ second) =
      numeral base first * base ^ second.length + numeral base second := by
  induction second using List.reverseRecOn with
  | nil => simp [numeral]
  | append_singleton digits digit ih =>
    have last (digits : List Nat) :
        numeral base (digits ++ [digit]) = numeral base digits * base + digit :=
      List.foldl_append
    rw [← List.append_assoc, last, ih, last, List.length_append, List.length_singleton,
      Nat.pow_succ, Nat.add_mul, Nat.mul_assoc, Nat.add_assoc]

theorem numeral_zeros (base count : Nat) : numeral base (List.replicate count 0) = 0 := by
  induction count with
  | zero => rfl
  | succ count ih =>
    unfold numeral at ih ⊢
    rwa [List.replicate_succ, List.foldl_cons, Nat.zero_mul, Nat.zero_add]

end Text

namespace Moment

variable {width n : Nat}

theorem areDigits_padded (width n : Nat) : Json.AreDigits (padded width n) :=
  Json.areDigits_padLeft width n

theorem numeral_padded (width n : Nat) :
    Text.numeral 10 ((padded width n).map fun c => c.val - 0x30) = n := by
  have zeros (count : Nat) : (List.replicate count (CodePoint.ofChar '0')).map
      (fun c => c.val - 0x30) = List.replicate count 0 := List.map_replicate
  unfold padded Text.padLeft
  rw [List.map_append, zeros, Text.numeral_append, Text.numeral_zeros, Json.numeral_ofNat,
    Nat.zero_mul, Nat.zero_add]

/-- A number that is not too large for its width is written in just this width. -/
theorem length_padded (wide : 0 < width) (fits : n < 10 ^ width) :
    (padded width n).length = width := by
  have short : (Text.ofNat n).length ≤ width := by
    unfold Text.ofNat
    rw [List.length_map]
    exact (Nat.length_toDigits_le_iff (by decide) wide).mpr fits
  unfold padded Text.padLeft
  rw [List.length_append, List.length_replicate, Nat.sub_add_cancel short]

end Moment

namespace Integer

theorem isBlank_of_areDigits {digits : Text} (are : Json.AreDigits digits) :
    ∀ c ∈ digits, c.isBlank = false :=
  fun c member => isBlank_of_bounds (are.bounds c member).1 (are.bounds c member).2

/-- A number that is filled up with zeros is read back. -/
theorem parse?_padded {width n : Nat} (wide : 0 < width) (narrow : width ≤ maxDigits)
    (fits : n < 10 ^ width) : parse? (Moment.padded width n) = some (n : Int) := by
  have are := Moment.areDigits_padded width n
  have short : (Moment.padded width n).length ≤ maxDigits := by
    rwa [Moment.length_padded wide fits]
  rw [parse?_of_sign (sign_of_areDigits are) (isBlank_of_areDigits are) are short]
  unfold ofDigits
  rw [Moment.numeral_padded]
  rfl

end Integer

/-! ### Dates as they are written -/

namespace HttpDate

/-- A zone, as a date names it. -/
inductive Zone
  /-- Universal time by its name. -/
  | gmt
  /-- So many hours and minutes ahead of universal time, or behind it. -/
  | shifted (behind : Bool) (hours : Fin 24) (minutes : Fin 60)

namespace Zone

/-- How many seconds the clocks of a zone are ahead of universal time. -/
def offset : Zone → Int
  | gmt => 0
  | shifted behind hours minutes =>
    let span : Int := hours.val * 3600 + minutes.val * 60
    if behind then -span else span

/-- Two digits for the hours and two for the minutes. -/
def digits (hours : Fin 24) (minutes : Fin 60) : Text :=
  Moment.padded 2 hours.val ++ Moment.padded 2 minutes.val

/-- The name of a zone. -/
def text : Zone → Text
  | gmt => "GMT"
  | shifted behind hours minutes =>
    CodePoint.ofChar (if behind then '-' else '+') :: digits hours minutes

/-- What a clock in the zone shows at an instant, in seconds from the first of January 1970. -/
def moment (zone : Zone) (instant : Int) : Moment :=
  .ofMicroseconds ((instant + zone.offset) * 1000000)

end Zone

/-- The names of the months. -/
def monthNames : List Text :=
  ["Jan", "Feb", "Mar", "Apr", "May", "Jun", "Jul", "Aug", "Sep", "Oct", "Nov", "Dec"]

/-- The name of a month. -/
def monthName (month : Nat) : Text :=
  monthNames.getD (month - 1) []

/-- The words of a date behind its weekday. -/
def pieces (moment : Moment) (zone : Zone) : List Text :=
  [Moment.padded 2 moment.date.day, monthName moment.date.month,
    Moment.padded 4 moment.date.year, moment.timeText, zone.text]

/-- A date with its time and zone: weekday, day, month, year, time and zone. -/
def write (weekday : Text) (moment : Moment) (zone : Zone) : Text :=
  Text.join " " ((weekday ++ ",") :: pieces moment zone)

/-! ### Zones -/

namespace Zone

variable (behind : Bool) (hours : Fin 24) (minutes : Fin 60)

theorem areDigits_digits : Json.AreDigits (digits hours minutes) :=
  Json.areDigits_append (Moment.areDigits_padded ..) (Moment.areDigits_padded ..).digits

theorem length_padded_minutes : (Moment.padded 2 minutes.val).length = 2 :=
  Moment.length_padded (by decide) (Nat.lt_trans minutes.isLt (by decide))

theorem length_digits : (digits hours minutes).length = 4 := by
  have front : (Moment.padded 2 hours.val).length = 2 :=
    Moment.length_padded (by decide) (Nat.lt_trans hours.isLt (by decide))
  unfold digits
  rw [List.length_append, front, length_padded_minutes]

/-- Hours and minutes are read as one number. -/
theorem numeral_digits : Text.numeral 10 ((digits hours minutes).map fun c => c.val - 0x30) =
    hours.val * 100 + minutes.val := by
  unfold digits
  rw [List.map_append, Text.numeral_append, Moment.numeral_padded, Moment.numeral_padded,
    List.length_map, length_padded_minutes]
  rfl

theorem isBlank_text (zone : Zone) : ∀ c ∈ zone.text, c.isBlank = false := by
  cases zone with
  | gmt => decide
  | shifted behind hours minutes =>
    refine List.forall_mem_cons.mpr ⟨?_, Integer.isBlank_of_areDigits (areDigits_digits ..)⟩
    cases behind <;> decide

theorem text_ne_nil (zone : Zone) : zone.text ≠ [] := by
  cases zone <;> exact List.cons_ne_nil _ _

theorem parse?_text : Integer.parse? (shifted behind hours minutes).text =
    some (Integer.ofDigits behind ((digits hours minutes).map fun c => c.val - 0x30)) := by
  have signed : Integer.sign (shifted behind hours minutes).text =
      (behind, digits hours minutes) := by
    cases behind <;> rfl
  have short : (digits hours minutes).length ≤ Integer.maxDigits := by
    rw [length_digits]
    decide
  exact Integer.parse?_of_sign signed (isBlank_text _) (areDigits_digits ..) short

/-- No zone that is known by its name starts with a sign. -/
theorem lookup_text : ((shifted behind hours minutes).text.toAsciiUpper?).bind
    (fun name => List.lookup name zones) = none := by
  have unnamed : ∀ zone ∈ zones,
      zone.1.head? ≠ some (CodePoint.ofChar (if behind then '-' else '+')) := by
    cases behind <;> decide
  have upper : CodePoint.toAsciiUpper? (CodePoint.ofChar (if behind then '-' else '+')) =
      some [CodePoint.ofChar (if behind then '-' else '+')] := by
    cases behind <;> rfl
  refine Option.bind_eq_none_iff.mpr fun name capital => List.lookup_eq_none_iff.mpr ?_
  unfold text Text.toAsciiUpper? at capital
  rw [List.mapM_cons, upper] at capital
  obtain ⟨parts, read, rfl⟩ := Option.map_eq_some_iff.mp capital
  simp only [Option.bind_eq_bind, Option.bind_some, Option.bind_eq_some_iff, Option.pure_def,
    Option.some.injEq] at read
  obtain ⟨others, -, rfl⟩ := read
  intro zone known
  have differs := unnamed zone known
  rw [bne_iff_ne]
  intro same
  exact differs (same ▸ rfl)

end Zone

/-- A zone without a name is its number, also where a zero says that nothing is known. -/
theorem zoneNumber?_of_parse? {t : Text} {number : Int}
    (unnamed : (t.toAsciiUpper?).bind (fun name => List.lookup name zones) = none)
    (read : Integer.parse? t = some number) : (zoneNumber? t).getD 0 = number := by
  unfold zoneNumber?
  rw [unnamed, read]
  simp only
  split
  · rename_i zero
    cases zero
    split <;> rfl
  · rfl

/-- A zone is read as its offset. -/
theorem zoneNumber?_text (zone : Zone) :
    offsetSeconds ((zoneNumber? zone.text).getD 0) = zone.offset := by
  cases zone with
  | gmt => decide +kernel
  | shifted behind hours minutes =>
    rw [zoneNumber?_of_parse? (Zone.lookup_text behind hours minutes) (Zone.parse?_text ..)]
    unfold Integer.ofDigits offsetSeconds Zone.offset
    rw [Zone.numeral_digits]
    cases behind <;> simp only [Bool.false_eq_true, reduceIte] <;> omega

/-! ### Fields -/

/-- A month has its number back. -/
theorem monthNumber?_monthName {month : Nat} (first : 1 ≤ month) (last : month ≤ 12) :
    monthNumber? (monthName month) = some month := by
  have known : ∀ index : Fin 12,
      monthNumber? (monthName (index.val + 1)) = some (index.val + 1) := by
    decide +kernel
  have same := known ⟨month - 1, by omega⟩
  rwa [Nat.sub_add_cancel first] at same

theorem isSolid_monthName {month : Nat} (first : 1 ≤ month) (last : month ≤ 12) :
    Text.IsSolid (monthName month) := by
  have known : ∀ index : Fin 12, Text.IsSolid (monthName (index.val + 1)) := by
    unfold Text.IsSolid
    decide +kernel
  have same := known ⟨month - 1, by omega⟩
  rwa [Nat.sub_add_cancel first] at same

theorem notMem_padded {mark : CodePoint} (other : mark.isAsciiDigit = false) (width n : Nat) :
    mark ∉ Moment.padded width n := by
  intro member
  have digit := (Moment.areDigits_padded width n).digits mark member
  rw [other] at digit
  cases digit

theorem isSolid_padded (width n : Nat) : Text.IsSolid (Moment.padded width n) :=
  ⟨(Moment.areDigits_padded width n).some,
    Integer.isBlank_of_areDigits (Moment.areDigits_padded width n)⟩

theorem dropComma_of_notMem {t : Text} (absent : CodePoint.ofChar ',' ∉ t) : dropComma t = t := by
  unfold dropComma endsWithComma
  rw [if_neg]
  rw [decide_eq_true_eq]
  exact fun last => absent (List.mem_of_getLast? last)

theorem dropWeekday_cons (weekday : Text) (rest : List Text) :
    dropWeekday ((weekday ++ ",") :: rest) = rest := by
  have ends : endsWithComma (weekday ++ ",") := by
    unfold endsWithComma
    exact decide_eq_true List.getLast?_concat
  exact if_pos (Bool.or_eq_true_iff.mpr (.inl ends))

/-! ### Times -/

/-- Hours, minutes and seconds of a time, as they are written. -/
def timePieces (moment : Moment) : List Text :=
  [Moment.padded 2 moment.hour, Moment.padded 2 moment.minute, Moment.padded 2 moment.second]

theorem timeText_eq (moment : Moment) :
    moment.timeText = Text.join [CodePoint.ofChar ':'] (timePieces moment) := by
  unfold Moment.timeText timePieces Text.join Text.join Text.join
  simp only [List.append_assoc]
  rfl

/-- A time holds digits and colons. -/
theorem forall_mem_timeText {p : CodePoint → Prop} (digit : ∀ c : CodePoint, c.isAsciiDigit → p c)
    (colon : p ':') (moment : Moment) : ∀ c ∈ moment.timeText, p c := by
  rw [timeText_eq]
  refine (Text.forall_mem_join_iff (List.forall_mem_singleton.mpr colon) _).mpr ?_
  have each (n : Nat) : ∀ c ∈ Moment.padded 2 n, p c :=
    fun c member => digit c ((Moment.areDigits_padded 2 n).digits c member)
  simp only [timePieces, List.forall_mem_cons]
  exact ⟨each _, each _, each _, nofun⟩

theorem isSolid_timeText (moment : Moment) : Text.IsSolid moment.timeText := by
  refine ⟨?_, forall_mem_timeText (fun c digit => ?_) (by decide) moment⟩
  · unfold Moment.timeText
    simp [(Moment.areDigits_padded 2 moment.hour).some]
  · have bounds := Json.bounds_of_isAsciiDigit digit
    exact Integer.isBlank_of_bounds (by omega) bounds.2

theorem timeParts?_timeText (moment : Moment) : timeParts? moment.timeText =
    some (Moment.padded 2 moment.hour, Moment.padded 2 moment.minute,
      Moment.padded 2 moment.second) := by
  have single : CodePoint.ofChar ',' ∉ moment.timeText := fun member =>
    forall_mem_timeText (p := fun c => c ≠ ',') (fun c digit => by rintro rfl; cases digit)
      (by decide) moment _ member rfl
  have pieces : Text.splitOn ':' moment.timeText = timePieces moment := by
    rw [timeText_eq]
    refine Text.splitOn_join (List.cons_ne_nil _ _) ?_
    have each : ∀ n, CodePoint.ofChar ':' ∉ Moment.padded 2 n := notMem_padded rfl 2
    simp only [timePieces, List.forall_mem_cons]
    exact ⟨each _, each _, each _, nofun⟩
  unfold timeParts?
  rw [dropComma_of_notMem single]
  simp only [pieces, timePieces]

/-! ### Moments -/

variable {moment : Moment} {zone : Zone} {weekday : Text}

/-- A date is written in words. -/
theorem isSolid_pieces (valid : moment.date.isValid) (solid : ∀ c ∈ weekday, c.isBlank = false)
    (zone : Zone) : ∀ piece ∈ (weekday ++ ",") :: pieces moment zone, Text.IsSolid piece := by
  have month := Date.month_of_isValid valid
  have first : Text.IsSolid (weekday ++ ",") :=
    ⟨List.append_ne_nil_of_right_ne_nil _ (by decide),
      List.forall_mem_append.mpr ⟨solid, by decide⟩⟩
  simp only [pieces, List.forall_mem_cons]
  exact ⟨first, isSolid_padded .., isSolid_monthName month.1 month.2, isSolid_padded ..,
    isSolid_timeText moment, ⟨zone.text_ne_nil, zone.isBlank_text⟩, nofun⟩

/-- The words of a date that is written. -/
theorem words?_write (valid : moment.date.isValid) (solid : ∀ c ∈ weekday, c.isBlank = false)
    (zone : Zone) :
    words? (write weekday moment zone) =
      some ⟨Moment.padded 2 moment.date.day, monthName moment.date.month,
        Moment.padded 4 moment.date.year, moment.timeText, zone.text⟩ := by
  have month := Date.month_of_isValid valid
  have words : (write weekday moment zone).words = (weekday ++ ",") :: pieces moment zone :=
    Text.words_join (isSolid_pieces valid solid zone)
  have named : ¬ ((Moment.padded 2 moment.date.day).isEmpty ||
      (monthName moment.date.month).isEmpty || (Moment.padded 4 moment.date.year).isEmpty) := by
    simp [(isSolid_padded _ _).1, (isSolid_monthName month.1 month.2).1]
  unfold words?
  rw [words, dropWeekday_cons]
  exact if_neg named

theorem yearTimeZone?_of_padded (day month : Text) (year : Nat) (time zone : Text) :
    yearTimeZone? ⟨day, month, Moment.padded 4 year, time, zone⟩ =
      some (Moment.padded 4 year, time, zone) := by
  have absent : CodePoint.ofChar ':' ∉ Moment.padded 4 year := notMem_padded rfl _ _
  have timeless : isTime (Moment.padded 4 year) = false := by
    have later : (Moment.padded 4 year |>.drop 1).contains (CodePoint.ofChar ':') = false := by
      simpa using fun member => absent (List.mem_of_mem_tail member)
    unfold isTime
    rw [later, Bool.false_and]
  have single : CodePoint.ofChar ',' ∉ Moment.padded 4 year := notMem_padded rfl _ _
  have are := Moment.areDigits_padded 4 year
  unfold yearTimeZone?
  simp only [timeless, Bool.false_eq_true, if_false, dropComma_of_notMem single]
  obtain ⟨c, rest, shape⟩ := List.exists_cons_of_ne_nil are.some
  rw [shape] at are ⊢
  have digit : c.isDigit := by
    unfold CodePoint.isDigit CodePoint.isDecimalDigit
    rw [CodePoint.decimalDigit?_asciiDigit (are.digits c List.mem_cons_self)]
    rfl
  exact if_pos digit

/-- A moment whose numbers have as many digits as a date has room for. -/
structure Fits (moment : Moment) : Prop where
  date : moment.date.isValid
  hour : moment.hour < 24
  minute : moment.minute < 60
  second : moment.second < 60

/-- The fields of a date that is written. -/
theorem fields?_write (fits : Fits moment) (solid : ∀ c ∈ weekday, c.isBlank = false)
    (zone : Zone) :
    fields? (write weekday moment zone) = some ⟨fullYear moment.date.year, moment.date.month,
      moment.date.day, moment.hour, moment.minute, moment.second, zone.offset⟩ := by
  have month := Date.month_of_isValid fits.date
  have single : CodePoint.ofChar ',' ∉ Moment.padded 2 moment.date.day := notMem_padded rfl _ _
  have year : Integer.parse? (Moment.padded 4 moment.date.year) = some (moment.date.year : Int) :=
    Integer.parse?_padded (by decide) (by decide)
      (Nat.lt_of_le_of_lt (Date.year_of_isValid fits.date).2 (by decide))
  have day : Integer.parse? (Moment.padded 2 moment.date.day) = some (moment.date.day : Int) :=
    Integer.parse?_padded (by decide) (by decide) (Nat.lt_of_le_of_lt
      ((Date.day_of_isValid fits.date).2.trans (Date.daysInMonth_le ..)) (by decide))
  have hour : Integer.parse? (Moment.padded 2 moment.hour) = some (moment.hour : Int) :=
    Integer.parse?_padded (by decide) (by decide) (fits.hour.trans (by decide))
  have minute : Integer.parse? (Moment.padded 2 moment.minute) = some (moment.minute : Int) :=
    Integer.parse?_padded (by decide) (by decide) (fits.minute.trans (by decide))
  have second : Integer.parse? (Moment.padded 2 moment.second) = some (moment.second : Int) :=
    Integer.parse?_padded (by decide) (by decide) (fits.second.trans (by decide))
  unfold fields? dayAndMonth?
  rw [words?_write fits.date solid]
  simp only [Option.bind_eq_bind, Option.bind_some, monthNumber?_monthName month.1 month.2,
    yearTimeZone?_of_padded, timeParts?_timeText, dropComma_of_notMem single, year, day, hour,
    minute, second, zoneNumber?_text, Option.pure_def]

/-! ### Instants -/

/-- The day of an instant and its time of day. -/
theorem moment_eq (zone : Zone) {instant shown : Int} (shows : instant + zone.offset = shown) :
    zone.moment instant =
      { date := .ofOrdinal (shown / 86400 + Date.epochOrdinal).toNat
        hour := (shown % 86400).toNat / 3600
        minute := (shown % 86400).toNat / 60 % 60
        second := (shown % 86400).toNat % 60
        microsecond := 0 } := by
  unfold Zone.moment Moment.ofMicroseconds
  rw [shows, Int.mul_fdiv_cancel _ (by decide), Int.mul_fmod_left]
  simp only [Int.fdiv_eq_ediv_of_nonneg _ (show (0 : Int) ≤ 86400 by decide),
    Int.fmod_eq_emod_of_nonneg _ (show (0 : Int) ≤ 86400 by decide), Int.toNat_zero]

/-- What a clock shows in a year that dates have. -/
theorem fits_moment {instant : Int} (early : 100 ≤ (zone.moment instant).date.year)
    (late : (zone.moment instant).date.year ≤ 9999) : Fits (zone.moment instant) ∧
      ((zone.moment instant).date.ordinal - Date.epochOrdinal : Int) * 86400 +
        (zone.moment instant).hour * 3600 + (zone.moment instant).minute * 60 +
        (zone.moment instant).second = instant + zone.offset := by
  generalize shows : instant + zone.offset = shown
  rw [moment_eq zone shows] at early late ⊢
  generalize dayIs : (shown / 86400 + Date.epochOrdinal).toNat = day at early late ⊢
  have counted : 1 ≤ day := by
    refine Nat.pos_of_ne_zero fun zero => ?_
    have first : (Date.ofOrdinal 0).year = 1 := by decide
    rw [zero, first] at early
    omega
  refine ⟨⟨Date.isValid_ofOrdinal counted late, ?_, ?_, ?_⟩, ?_⟩
  · show (shown % 86400).toNat / 3600 < 24
    omega
  · exact Nat.mod_lt _ (by decide)
  · exact Nat.mod_lt _ (by decide)
  · simp only [Date.ordinal_ofOrdinal counted]
    omega

theorem Zone.natAbs_offset (zone : Zone) : zone.offset.natAbs < 86400 := by
  cases zone with
  | gmt => decide
  | shifted behind hours minutes =>
    unfold offset
    cases behind <;> simp only [Bool.false_eq_true, reduceIte] <;> omega

theorem fitsWord_of_le {n : Nat} (small : n ≤ 9999) : fitsWord n := by
  unfold fitsWord
  simp only [Bool.and_eq_true, decide_eq_true_eq]
  omega

/-- The instant of fields that are all within their bounds. -/
theorem Fields.epochSeconds_of_fits (fits : Fits moment) (zone : Zone) :
    epochSeconds ⟨moment.date.year, moment.date.month, moment.date.day, moment.hour, moment.minute,
      moment.second, zone.offset⟩ = .ok ((moment.date.ordinal - Date.epochOrdinal : Int) * 86400 +
        moment.hour * 3600 + moment.minute * 60 + moment.second - zone.offset) := by
  have year := Date.year_of_isValid fits.date
  have day : 1 ≤ moment.date.day ∧ moment.date.day ≤ 31 :=
    (Date.day_of_isValid fits.date).imp_right fun late => late.trans (Date.daysInMonth_le ..)
  have hour := fits.hour
  have minute := fits.minute
  have second := fits.second
  have near := zone.natAbs_offset
  have span : ¬ maxSpanDays < (zone.offset.fdiv 86400).natAbs := by
    rw [Int.fdiv_eq_ediv_of_nonneg _ (by decide)]
    unfold maxSpanDays
    omega
  have inDay : ¬ (zone.offset ≤ -86400 || 86400 ≤ zone.offset) := by
    simp only [Bool.or_eq_true, decide_eq_true_eq]
    omega
  have small : fitsWord moment.date.year ∧ fitsWord moment.date.day ∧ fitsWord moment.hour ∧
      fitsWord moment.minute ∧ fitsWord moment.second := by
    refine ⟨?_, ?_, ?_, ?_, ?_⟩ <;> exact fitsWord_of_le (by omega)
  have bounds : ¬ ((moment.date.year : Int) < 1 || (moment.date.day : Int) < 1 ||
      (moment.hour : Int) < 0 || 23 < (moment.hour : Int) || (moment.minute : Int) < 0 ||
      59 < (moment.minute : Int) || (moment.second : Int) < 0 || 59 < (moment.second : Int)) := by
    simp only [Bool.or_eq_true, decide_eq_true_eq]
    omega
  unfold epochSeconds
  simp only
  rw [if_neg span, if_neg inDay, small.1, small.2.1, small.2.2.1, small.2.2.2.1, small.2.2.2.2,
    if_neg (by decide), if_neg bounds]
  exact if_pos fits.date

/-- A date is read as the instant that it names. -/
theorem epochSeconds_write {instant : Int} (solid : ∀ c ∈ weekday, c.isBlank = false)
    (early : 100 ≤ (zone.moment instant).date.year)
    (late : (zone.moment instant).date.year ≤ 9999) :
    epochSeconds (write weekday (zone.moment instant) zone) = .ok instant := by
  obtain ⟨fits, shows⟩ := fits_moment early late
  have year : fullYear (zone.moment instant).date.year = (zone.moment instant).date.year :=
    if_neg (by omega)
  unfold epochSeconds
  rw [fields?_write fits solid, year]
  simp only
  rw [Fields.epochSeconds_of_fits fits, shows, Int.add_sub_cancel]

end HttpDate

/-! ### Waits -/

namespace RetryAfter

/-- A span that is over is no wait at all, and rounding does not change which spans are over. -/
theorem larger_secondsOfMicroseconds (count : Int) :
    (secondsOfMicroseconds count).larger 0 = secondsOfMicroseconds (max count 0) := by
  have zero : secondsOfMicroseconds 0 = 0 := by decide +kernel
  unfold Binary64.larger
  by_cases passed : count < 0
  · have units : 0 < count.natAbs * unitsPerOne / 1000000 := by
      have one : 1000000 ≤ unitsPerOne := by decide +kernel
      have most : 1 * unitsPerOne ≤ count.natAbs * unitsPerOne :=
        Nat.mul_le_mul_right _ (by omega)
      exact Nat.div_pos (by omega) (by decide)
    have below : secondsOfMicroseconds count < 0 := by
      unfold secondsOfMicroseconds Binary64.ofRatio
      rw [decide_eq_true passed]
      exact Binary64.ofUnits_neg (roundUnits_pos units)
    rw [if_pos below, max_eq_right (Int.le_of_lt passed), zero]
  · have above : ¬ secondsOfMicroseconds count < 0 := by
      unfold secondsOfMicroseconds Binary64.ofRatio
      rw [decide_eq_false passed]
      exact Binary64.ofUnits_not_neg _
    rw [if_neg above, max_eq_left (Int.not_lt.mp passed)]

variable {weekday before after : Text} {zone : HttpDate.Zone} {instant : Int}

/-- **A server that names an instant is obeyed**: whatever the zone of its date and whatever the
wall clock shows, the wait lasts until that instant, to the microsecond, and is over if it has
passed. -/
theorem date_awaited (solid : ∀ c ∈ weekday, c.isBlank = false)
    (early : 100 ≤ (zone.moment instant).date.year)
    (late : (zone.moment instant).date.year ≤ 9999) (front : ∀ c ∈ before, c.isBlank)
    (back : ∀ c ∈ after, c.isBlank) (wall : Int) :
    (read (before ++ HttpDate.write weekday (zone.moment instant) zone ++ after)).map
        (·.delay fallback wall) =
      .ok (secondsOfMicroseconds (max (instant * 1000000 - wall) 0)) := by
  have fits := (HttpDate.fits_moment early late).1
  have stripped : (before ++ HttpDate.write weekday (zone.moment instant) zone ++ after).strip =
      HttpDate.write weekday (zone.moment instant) zone :=
    (Text.strip_surrounded front back _).trans
      (Text.strip_join (HttpDate.isSolid_pieces fits.date solid zone))
  have comma : CodePoint.ofChar ',' ∈ HttpDate.write weekday (zone.moment instant) zone := by
    have here : CodePoint.ofChar ',' ∈ weekday ++ Text.ofString "," :=
      List.mem_append_right _ List.mem_cons_self
    exact List.mem_append_left _ (List.mem_append_left _ here)
  unfold read
  rw [stripped]
  cases plain : Seconds.parse (HttpDate.write weekday (zone.moment instant) zone) with
  | ok seconds => exact absurd comma (Seconds.notMem_of_parse plain Seconds.comma_not_isPlain rfl)
  | error fault =>
    rw [HttpDate.epochSeconds_write solid early late, ← larger_secondsOfMicroseconds]
    rfl

/-- A date in India, between blanks, read three and a half seconds before its instant. -/
theorem indian_date_awaited :
    (read "\t Sun, 06 Nov 1994 14:19:37 +0530 ").map (·.delay fallback 784111773500000) =
      .ok (secondsOfMicroseconds 3500000) := by
  have written : ("\t Sun, 06 Nov 1994 14:19:37 +0530 " : Text) = ("\t " : Text) ++
      HttpDate.write "Sun" ((HttpDate.Zone.shifted false 5 30).moment 784111777)
        (.shifted false 5 30) ++ (" " : Text) := by
    decide +kernel
  rw [written]
  exact date_awaited (by decide) (by decide +kernel) (by decide +kernel) (by decide) (by decide) _

end RetryAfter

end Courier
