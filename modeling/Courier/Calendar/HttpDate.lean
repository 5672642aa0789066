/-
**Dates in mail and HTTP headers.**

The reader is lenient. It takes the words of the text as day, month, year, time and zone, after a
weekday if there is one, with the parts that senders are known to exchange put back in place:
day and month, year and time, year and zone. A year below 100 is one of 1969 to 2068. An unknown
zone is universal time. A field too large for a machine word is not the same as an unreadable date.

* `HttpDate.epochSeconds_gmt`: the date that the HTTP standard gives as its example.
-/
import Courier.Calendar.Date
import Courier.Number.Integer
import Courier.Text.LetterCase
namespace Courier.HttpDate

/-- Why a text gives no instant. -/
inductive Fault
  /-- It is no date. -/
  | unreadable
  /-- A field of it is too large to be looked at. -/
  | tooLarge
  deriving DecidableEq

/-- The five words of a date. -/
structure Words where
  day : Text
  month : Text
  year : Text
  time : Text
  zone : Text

/-- The short names of the weekdays. -/
def weekdays : List Text :=
  ["mon", "tue", "wed", "thu", "fri", "sat", "sun"]

/-- The short names of the months, then the full ones. -/
def months : List Text :=
  ["jan", "feb", "mar", "apr", "may", "jun", "jul", "aug", "sep", "oct", "nov", "dec",
    "january", "february", "march", "april", "may", "june", "july", "august", "september",
    "october", "november", "december"]

/-- The named zones, with their offsets as hours times a hundred. -/
def zones : List (Text × Int) :=
  [("UT", 0), ("UTC", 0), ("GMT", 0), ("Z", 0), ("AST", -400), ("ADT", -300), ("EST", -500),
    ("EDT", -400), ("CST", -600), ("CDT", -500), ("MST", -700), ("MDT", -600), ("PST", -800),
    ("PDT", -700)]

/-- Ends with a comma. -/
def endsWithComma (t : Text) : Bool :=
  t.getLast? = some (CodePoint.ofChar ',')

/-- Without a comma at the end. -/
def dropComma (t : Text) : Text :=
  if endsWithComma t then t.dropLast else t

/-- The words after the weekday. -/
def dropWeekday : List Text → List Text
  | [] => []
  | first :: rest =>
    if endsWithComma first || weekdays.contains first.toLower then rest
    else (first.cutLast ',').2 :: rest

/-- Three words, of which the first is a date between hyphens, are five. -/
def splitHyphens : List Text → List Text
  | [date, time, zone] =>
    match Text.splitOn '-' date with
    | [day, month, year] => [day, month, year, time, zone]
    | _ => [date, time, zone]
  | words => words

/-- Where a zone with the given sign begins inside a time; not at its start. -/
def zoneStart? (sign : CodePoint) (t : Text) : Option Nat :=
  t.findIdx? (· = sign)

/-- Four words have the zone in the last one, or none. -/
def splitZone : List Text → List Text
  | [day, month, year, time] =>
    match (zoneStart? '+' time).or (zoneStart? '-' time) with
    | some (start + 1) => [day, month, year, time.take (start + 1), time.drop (start + 1)]
    | _ => [day, month, year, time, []]
  | words => words

/-- The five words of a date; more are ignored. -/
def words? (t : Text) : Option Words :=
  match splitZone (splitHyphens (dropWeekday t.words)) with
  | day :: month :: year :: time :: zone :: _ =>
    if day.isEmpty || month.isEmpty || year.isEmpty then none
    else some ⟨day, month, year, time, zone⟩
  | _ => none

/-- The number of a month. -/
def monthNumber? (t : Text) : Option Nat :=
  (months.findIdx? (· = t.toLower)).map fun index => index % 12 + 1

/-- The day, and the number of the month; the two may be exchanged. -/
def dayAndMonth? (w : Words) : Option (Text × Nat) :=
  match monthNumber? w.month with
  | some month => some (w.day, month)
  | none => (monthNumber? w.day).map fun month => (w.month.toLower, month)

/-- Has a colon after its first character. -/
def isTime (t : Text) : Bool :=
  (t.drop 1).contains (CodePoint.ofChar ':') && t.head? != some (CodePoint.ofChar ':')

/-- Year, time and zone, each exchanged with another where the year shows it. -/
def yearTimeZone? (w : Words) : Option (Text × Text × Text) :=
  let (year, time) := if isTime w.year then (w.time, w.year) else (w.year, w.time)
  match dropComma year with
  | [] => none
  | c :: rest =>
    if c.isDigit then some (c :: rest, time, w.zone) else some (w.zone, time, c :: rest)

/-- Hour, minute and second of a time between colons, or else between points. -/
def timeParts? (t : Text) : Option (Text × Text × Text) :=
  let t := dropComma t
  match Text.splitOn ':' t with
  | [hour, minute] => some (hour, minute, "0")
  | [hour, minute, second] => some (hour, minute, second)
  | [whole] =>
    match Text.splitOn '.' whole with
    | [hour, minute] => some (hour, minute, "0")
    | [hour, minute, second] => some (hour, minute, second)
    | _ => none
  | _ => none

/-- A year below 100 is one of 1969 to 2068. -/
def fullYear (year : Int) : Int :=
  if year < 100 then if 68 < year then year + 1900 else year + 2000 else year

/-- The offset of a zone as hours times a hundred; none for a zone that says nothing. -/
def zoneNumber? (t : Text) : Option Int :=
  match (t.toAsciiUpper?).bind fun name => List.lookup name zones with
  | some number => some number
  | none =>
    match Integer.parse? t with
    | some 0 => if t.head? = some (CodePoint.ofChar '-') then none else some 0
    | number => number

/-- The offset of a zone in seconds. -/
def offsetSeconds (number : Int) : Int :=
  let magnitude : Int := (number.natAbs / 100 * 3600 + number.natAbs % 100 * 60 : Nat)
  if number < 0 then -magnitude else magnitude

/-- A date with its time and offset, all as numbers. -/
structure Fields where
  year : Int
  month : Nat
  day : Int
  hour : Int
  minute : Int
  second : Int
  /-- In seconds; universal time is zero. -/
  offset : Int
  deriving DecidableEq

/-- The fields of a date. -/
def fields? (t : Text) : Option Fields := do
  let w ← words? t
  let (day, month) ← dayAndMonth? w
  let (year, time, zone) ← yearTimeZone? w
  let (hour, minute, second) ← timeParts? time
  let year ← Integer.parse? year
  let day ← Integer.parse? (dropComma day)
  let hour ← Integer.parse? hour
  let minute ← Integer.parse? minute
  let second ← Integer.parse? second
  return ⟨fullYear year, month, day, hour, minute, second,
    offsetSeconds ((zoneNumber? zone).getD 0)⟩

/-- Fits a machine word of 32 bits. -/
def fitsWord (i : Int) : Bool :=
  -2147483648 ≤ i && i ≤ 2147483647

/-- The most days that a span of time may have. -/
def maxSpanDays : Int :=
  999999999

/-- The instant that the fields name, in seconds from the first of January 1970. -/
def Fields.epochSeconds (f : Fields) : Except Fault Int :=
  if maxSpanDays < (f.offset.fdiv 86400).natAbs then .error .tooLarge
  else if f.offset ≤ -86400 || 86400 ≤ f.offset then .error .unreadable
  else if !(fitsWord f.year && fitsWord f.day && fitsWord f.hour && fitsWord f.minute &&
      fitsWord f.second) then .error .tooLarge
  else if f.year < 1 || f.day < 1 || f.hour < 0 || 23 < f.hour || f.minute < 0 || 59 < f.minute ||
      f.second < 0 || 59 < f.second then .error .unreadable
  else
    let date : Date := ⟨f.year.toNat, f.month, f.day.toNat⟩
    if date.isValid then
      let days : Int := (date.ordinal : Int) - Date.epochOrdinal
      .ok (days * 86400 + f.hour * 3600 + f.minute * 60 + f.second - f.offset)
    else .error .unreadable

/-- The instant that a date names, in seconds from the first of January 1970. -/
def epochSeconds (t : Text) : Except Fault Int :=
  match fields? t with
  | none => .error .unreadable
  | some fields => fields.epochSeconds

theorem epochSeconds_gmt :
    (epochSeconds "Sun, 06 Nov 1994 08:49:37 GMT").toOption = some 784111777 := by
  decide +kernel

end Courier.HttpDate
