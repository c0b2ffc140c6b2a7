/-!
# Civil dates

Dates of the proleptic Gregorian calendar, counted in days from 1970-01-01. The
calendar repeats after 400 years, and inside those years are counted from March, so
that a leap day is the last day of its year.
-/

namespace PredictionMarket.Calendar

/-- A year, a month from 1 to 12 and a day of the month from 1. -/
structure Date where
  year : Int
  month : Nat
  day : Nat
deriving DecidableEq

/-- Whether a year has a leap day. -/
def isLeapYear (year : Int) : Bool :=
  year % 4 == 0 && (year % 100 != 0 || year % 400 == 0)

/-- The number of days of a month; none for a month that does not exist. -/
def daysInMonth (year : Int) : Nat → Nat
  | 1 | 3 | 5 | 7 | 8 | 10 | 12 => 31
  | 4 | 6 | 9 | 11 => 30
  | 2 => if isLeapYear year then 29 else 28
  | _ => 0

/-- The first year of the calendar. -/
def firstYear : Int := -262143

/-- The last year of the calendar. -/
def lastYear : Int := 262142

/-- The days of the 400 years after which the calendar repeats. -/
def daysPerCycle : Int := 146097

/-- The days from 0000-03-01 to 1970-01-01. -/
def daysToEpoch : Int := 719468

namespace Date

/-- Whether the date exists. -/
def exists? (date : Date) : Bool :=
  1 ≤ date.day && date.day ≤ daysInMonth date.year date.month

/-- Whether the date exists and lies in a year of the calendar. -/
def inCalendar (date : Date) : Bool :=
  firstYear ≤ date.year && date.year ≤ lastYear && date.exists?

/-- The number of days from 1970-01-01 to the date. -/
def dayNumber (date : Date) : Int :=
  let year := if date.month ≤ 2 then date.year - 1 else date.year
  let month : Int := if date.month ≤ 2 then date.month + 9 else date.month - 3
  let yearOfCycle := year % 400
  let dayOfYear := (153 * month + 2) / 5 + date.day - 1
  let dayOfCycle := yearOfCycle * 365 + yearOfCycle / 4 - yearOfCycle / 100 + dayOfYear
  year / 400 * daysPerCycle + dayOfCycle - daysToEpoch

/-- The date that lies a number of days after 1970-01-01. -/
def ofDayNumber (dayNumber : Int) : Date :=
  let days := dayNumber + daysToEpoch
  let dayOfCycle := days % daysPerCycle
  let yearOfCycle :=
    (dayOfCycle - dayOfCycle / 1460 + dayOfCycle / 36524 - dayOfCycle / 146096) / 365
  let dayOfYear := dayOfCycle - (365 * yearOfCycle + yearOfCycle / 4 - yearOfCycle / 100)
  let month := (5 * dayOfYear + 2) / 153
  let day := dayOfYear - (153 * month + 2) / 5 + 1
  let year := days / daysPerCycle * 400 + yearOfCycle
  if month < 10 then ⟨year, (month + 3).toNat, day.toNat⟩
  else ⟨year + 1, (month - 9).toNat, day.toNat⟩

end Date

end PredictionMarket.Calendar
