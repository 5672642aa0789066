/-
**Dates of the Gregorian calendar.**

A date is a year from 1 on, a month and a day. Its ordinal counts the days from the first of
January of the year 1, which has ordinal 1.

* `Date.ordinal_epoch`: the ordinal of the first of January 1970.
-/
namespace Courier

/-- Year, month and day, each counted from one. -/
structure Date where
  year : Nat
  month : Nat
  day : Nat
  deriving DecidableEq

namespace Date

/-- Every fourth year, except every hundredth, except every four-hundredth. -/
def isLeap (year : Nat) : Bool :=
  year % 4 = 0 && (year % 100 != 0 || year % 400 = 0)

/-- The lengths of the months. -/
def monthLengths (leap : Bool) : List Nat :=
  [31, if leap then 29 else 28, 31, 30, 31, 30, 31, 31, 30, 31, 30, 31]

/-- The length of a month; zero if there is no such month. -/
def daysInMonth (year month : Nat) : Nat :=
  if month = 0 then 0 else (monthLengths (isLeap year)).getD (month - 1) 0

/-- A date that exists, in a year from 1 to 9999. -/
def isValid (d : Date) : Bool :=
  1 ≤ d.year && d.year ≤ 9999 && 1 ≤ d.day && d.day ≤ daysInMonth d.year d.month

/-- The number of days before a year. -/
def daysBeforeYear (year : Nat) : Nat :=
  let past := year - 1
  365 * past + past / 4 - past / 100 + past / 400

/-- The number of days in a year before a month. -/
def daysBeforeMonth (year month : Nat) : Nat :=
  ((monthLengths (isLeap year)).take (month - 1)).foldl (fun days length => days + length) 0

/-- The count of days up to and with this one. -/
def ordinal (d : Date) : Nat :=
  daysBeforeYear d.year + daysBeforeMonth d.year d.month + d.day

/-- The ordinal of the first of January 1970. -/
def epochOrdinal : Nat :=
  719163

/-- The month and day of the day with the given index, counted from zero, in months of the given
lengths; `month` is the number of the first of them. -/
def monthAndDay (month index : Nat) : List Nat → Nat × Nat
  | [] => (month, index + 1)
  | length :: rest =>
    if index < length then (month, index + 1) else monthAndDay (month + 1) (index - length) rest

/-- The year of an ordinal, and the index of the day in it, counted from zero. -/
def yearAndIndex (n : Nat) : Nat × Nat :=
  let days := n - 1
  let cycles := days / 146097
  let inCycle := days % 146097
  let centuries := min 3 (inCycle / 36524)
  let inCentury := inCycle - centuries * 36524
  let quads := inCentury / 1461
  let inQuad := inCentury % 1461
  let years := min 3 (inQuad / 365)
  (400 * cycles + 100 * centuries + 4 * quads + years + 1, inQuad - years * 365)

/-- The date of an ordinal. -/
def ofOrdinal (n : Nat) : Date :=
  let (year, index) := yearAndIndex n
  let (month, day) := monthAndDay 1 index (monthLengths (isLeap year))
  ⟨year, month, day⟩

theorem ordinal_epoch : ordinal ⟨1970, 1, 1⟩ = epochOrdinal := by
  decide

end Date

end Courier
