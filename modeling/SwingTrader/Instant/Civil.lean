import SwingTrader.Instant.Basic
import SwingTrader.Text.Digits

/-!
# SwingTrader — civil dates and the text of an instant

Dates follow the Gregorian calendar in both directions without end. Years are
counted from March inside this module, so that the leap day is the last day of
a year and the months before it have fixed lengths.

* `CivilDate.ofDayNumber`, `CivilDate.dayNumber` — dates and days since 1970;
* `Instant.message` — an instant in a message, `2024-01-02 00:00:00 UTC`;
* `Instant.internetText` — an instant in a file, `2024-01-02T00:00:00Z`.
-/

namespace SwingTrader

/-- A day of the Gregorian calendar; months and days count from one. -/
structure CivilDate where
  year : Int
  month : Nat
  day : Nat
  deriving DecidableEq, Repr

namespace CivilDate

/-- Whether a year has a leap day. -/
def isLeapYear (year : Int) : Bool :=
  year % 4 == 0 && (year % 100 != 0 || year % 400 == 0)

/-- The number of days of a month. -/
def daysInMonth (year : Int) (month : Nat) : Nat :=
  if month == 2 then (if isLeapYear year then 29 else 28)
  else if month == 4 || month == 6 || month == 9 || month == 11 then 30
  else 31

/-- Whether the month and the day exist. -/
def isValid (date : CivilDate) : Bool :=
  1 ≤ date.month && date.month ≤ 12 && 1 ≤ date.day && date.day ≤ daysInMonth date.year date.month

/-- The date a number of days after the first of January 1970. -/
def ofDayNumber (dayNumber : Int) : CivilDate :=
  -- days since the first of March of year 0, split into eras of 400 years
  let shifted := dayNumber + 719468
  let era := shifted / 146097
  let dayOfEra := (shifted % 146097).toNat
  let yearOfEra := (dayOfEra - dayOfEra / 1460 + dayOfEra / 36524 - dayOfEra / 146096) / 365
  let dayOfYear := dayOfEra - (365 * yearOfEra + yearOfEra / 4 - yearOfEra / 100)
  let monthFromMarch := (5 * dayOfYear + 2) / 153
  let day := dayOfYear - (153 * monthFromMarch + 2) / 5 + 1
  let month := if monthFromMarch < 10 then monthFromMarch + 3 else monthFromMarch - 9
  let year := era * 400 + yearOfEra + (if month ≤ 2 then 1 else 0)
  ⟨year, month, day⟩

/-- The number of days from the first of January 1970 to a date. -/
def dayNumber (date : CivilDate) : Int :=
  let year := if date.month ≤ 2 then date.year - 1 else date.year
  let era := year / 400
  let yearOfEra := (year % 400).toNat
  let monthFromMarch := if date.month ≤ 2 then date.month + 9 else date.month - 3
  let dayOfYear := (153 * monthFromMarch + 2) / 5 + date.day - 1
  let dayOfEra := yearOfEra * 365 + yearOfEra / 4 - yearOfEra / 100 + dayOfYear
  era * 146097 + dayOfEra - 719468

end CivilDate

/-! ## Text -/

/-- A year has four digits; outside the years 0 to 9999 it carries its sign. -/
def yearText (year : Int) : String :=
  if 0 ≤ year ∧ year ≤ 9999 then Text.zeroPadded 4 year.toNat
  else (if year < 0 then "-" else "+") ++ Text.zeroPadded 4 year.natAbs

namespace Instant

/-- The date of an instant. -/
def date (t : Instant) : CivilDate :=
  CivilDate.ofDayNumber (t.seconds / 86400)

/-- `2024-01-02`. -/
def dateText (t : Instant) : String :=
  yearText t.date.year ++ "-" ++ Text.zeroPadded 2 t.date.month ++ "-" ++
    Text.zeroPadded 2 t.date.day

/--
`00:00:00`, followed by the fraction of the second in three, six or nine
digits, the fewest that write it exactly, or by nothing when it is zero. A leap
second is the sixtieth.
-/
def timeText (t : Instant) : String :=
  let secondOfDay := (t.seconds % 86400).toNat
  let leap := 1000000000 ≤ t.nanos
  let second := secondOfDay % 60 + (if leap then 1 else 0)
  let nanos := if leap then t.nanos - 1000000000 else t.nanos
  let fraction :=
    if nanos == 0 then ""
    else if nanos % 1000000 == 0 then "." ++ Text.zeroPadded 3 (nanos / 1000000)
    else if nanos % 1000 == 0 then "." ++ Text.zeroPadded 6 (nanos / 1000)
    else "." ++ Text.zeroPadded 9 nanos
  Text.zeroPadded 2 (secondOfDay / 3600) ++ ":" ++ Text.zeroPadded 2 (secondOfDay / 60 % 60) ++ ":"
    ++ Text.zeroPadded 2 second ++ fraction

/-- The text of an instant in messages. -/
def message (t : Instant) : String :=
  t.dateText ++ " " ++ t.timeText ++ " UTC"

/-- The text of an instant in files, as RFC 3339 has it. -/
def internetText (t : Instant) : String :=
  t.dateText ++ "T" ++ t.timeText ++ "Z"

end Instant

end SwingTrader
