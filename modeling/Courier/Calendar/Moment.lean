/-
**Moments in universal time.**

The wall clock counts microseconds from the first of January 1970. A moment is the date and the
time of day of such a count.
-/
import Courier.Calendar.Date
import Courier.Text.Basic
namespace Courier

/-- A date, and a time of day to the microsecond. -/
structure Moment where
  date : Date
  hour : Nat
  minute : Nat
  second : Nat
  microsecond : Nat
  deriving DecidableEq

namespace Moment

/-- The moment of a count of microseconds. -/
def ofMicroseconds (count : Int) : Moment :=
  let seconds := count.fdiv 1000000
  let inDay := (seconds.fmod 86400).toNat
  { date := Date.ofOrdinal ((seconds.fdiv 86400 + Date.epochOrdinal).toNat)
    hour := inDay / 3600
    minute := inDay / 60 % 60
    second := inDay % 60
    microsecond := (count.fmod 1000000).toNat }

/-- A number with at least `width` digits. -/
def padded (width n : Nat) : Text :=
  Text.padLeft '0' width (Text.ofNat n)

/-- Year, month and day between hyphens. -/
def dateText (m : Moment) : Text :=
  padded 4 m.date.year ++ "-" ++ padded 2 m.date.month ++ "-" ++ padded 2 m.date.day

/-- Hour, minute and second between colons. -/
def timeText (m : Moment) : Text :=
  padded 2 m.hour ++ ":" ++ padded 2 m.minute ++ ":" ++ padded 2 m.second

/-- Date and time with a `T` between them, the microseconds unless they are zero, and the offset of
universal time. -/
def isoText (m : Moment) : Text :=
  let fraction : Text := if m.microsecond = 0 then "" else "." ++ padded 6 m.microsecond
  m.dateText ++ "T" ++ m.timeText ++ fraction ++ "+00:00"

/-- Date and time with a blank between them. -/
def plainText (m : Moment) : Text :=
  m.dateText ++ " " ++ m.timeText

end Moment

end Courier
