import PredictionMarket.Calendar.Date

/-!
# Instants

An instant is a whole number of seconds from 1970-01-01T00:00:00 UTC and a number of
nanoseconds. During a leap second, which belongs to the second before it, the
nanoseconds go on from one thousand million.
-/

namespace PredictionMarket.Calendar

/-- A point in time. -/
structure Instant where
  /-- Whole seconds since 1970-01-01T00:00:00 UTC. -/
  seconds : Int
  /-- Nanoseconds after the whole second. -/
  nanos : Nat
deriving DecidableEq

/-- The seconds of a day. -/
def secondsPerDay : Int := 86400

/-- The nanoseconds of a second. -/
def nanosPerSecond : Nat := 1000000000

/-- The first second of the calendar. -/
def firstSecond : Int := Date.dayNumber ⟨firstYear, 1, 1⟩ * secondsPerDay

/-- The first second after the calendar. -/
def endSecond : Int := Date.dayNumber ⟨lastYear + 1, 1, 1⟩ * secondsPerDay

namespace Instant

/-- An instant, if its second lies in the calendar. -/
def inCalendar? (instant : Instant) : Option Instant :=
  if firstSecond ≤ instant.seconds ∧ instant.seconds < endSecond then some instant else none

/-- The instant a number of milliseconds after 1970-01-01T00:00:00 UTC. -/
def ofMillis? (millis : Int) : Option Instant :=
  inCalendar? ⟨millis / 1000, (millis % 1000).toNat * 1000000⟩

/-- Whether the instant lies in a leap second. -/
def inLeapSecond (instant : Instant) : Bool := nanosPerSecond ≤ instant.nanos

end Instant

end PredictionMarket.Calendar
