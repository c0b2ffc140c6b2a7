import PredictionMarket.Calendar.Instant
import PredictionMarket.Decimal.Digits

/-!
# Writing instants

An instant as the date and time of day that a clock with a fixed offset from UTC shows,
and the texts made from them. A year of four digits stands alone; other years have a
sign and at least four digits.
-/

namespace PredictionMarket.Calendar

open Decimal (digits paddedDigits)

/-- A date and a time of day. -/
structure Civil where
  date : Date
  hour : Nat
  minute : Nat
  /-- The second, which is 60 during a leap second. -/
  second : Nat
deriving DecidableEq

/-- What a clock shows that is ahead of UTC by a number of seconds. -/
def Instant.civil (instant : Instant) (offset : Int) : Civil :=
  let seconds := instant.seconds + offset
  let secondOfDay := (seconds % secondsPerDay).toNat
  { date := Date.ofDayNumber (seconds / secondsPerDay)
    hour := secondOfDay / 3600
    minute := secondOfDay % 3600 / 60
    second := secondOfDay % 60 + instant.nanos / nanosPerSecond }

/-- The text of a year. -/
def yearText (year : Int) : List Char :=
  if 0 ≤ year ∧ year ≤ 9999 then paddedDigits 4 year.toNat
  else (if year < 0 then '-' else '+') :: paddedDigits 4 year.natAbs

/-- The English name of a month. -/
def monthName : Nat → String
  | 1 => "January"
  | 2 => "February"
  | 3 => "March"
  | 4 => "April"
  | 5 => "May"
  | 6 => "June"
  | 7 => "July"
  | 8 => "August"
  | 9 => "September"
  | 10 => "October"
  | 11 => "November"
  | _ => "December"

namespace Civil

/-- The date in figures: `2025-02-20`. -/
def dateText (civil : Civil) : List Char :=
  yearText civil.date.year ++ '-' :: paddedDigits 2 civil.date.month ++
    '-' :: paddedDigits 2 civil.date.day

/-- Hours and minutes: `12:00`. -/
def minuteText (civil : Civil) : List Char :=
  paddedDigits 2 civil.hour ++ ':' :: paddedDigits 2 civil.minute

/-- Hours, minutes and seconds: `12:00:00`. -/
def secondText (civil : Civil) : List Char :=
  civil.minuteText ++ ':' :: paddedDigits 2 civil.second

/-- The date in words: `February 5, 2025`, with as much of the month as is given. -/
def worded (civil : Civil) (month : List Char) : List Char :=
  month ++ ' ' :: digits civil.date.day ++ ',' :: ' ' :: yearText civil.date.year

end Civil

namespace Instant

/-- The offset of Shanghai from UTC, the same all year. -/
def shanghaiOffset : Int := 8 * 3600

/-- The minute in UTC with a short month: `Feb 20, 2025 12:00`. -/
def displayText (instant : Instant) : String :=
  let civil := instant.civil 0
  String.ofList
    (civil.worded ((monthName civil.date.month).toList.take 3) ++ ' ' :: civil.minuteText)

/-- The date in UTC: `2025-02-20`. -/
def dateText (instant : Instant) : String := String.ofList (instant.civil 0).dateText

/-- The second in UTC with a full month: `February 20, 2025 12:00:00`. -/
def longText (instant : Instant) : String :=
  let civil := instant.civil 0
  String.ofList
    (civil.worded (monthName civil.date.month).toList ++ ' ' :: civil.secondText)

/-- The second in Shanghai: `2025-02-20 20:00:00`. -/
def shanghaiText (instant : Instant) : String :=
  let civil := instant.civil shanghaiOffset
  String.ofList (civil.dateText ++ ' ' :: civil.secondText)

end Instant

end PredictionMarket.Calendar
