import PredictionMarket.Calendar.Layout
import PredictionMarket.Failure
import PredictionMarket.Json.Plain

/-!
# Attestation times

The instant at which a market is decided, read from a loosely typed value: a text that
is written like an instant, or a number of milliseconds since 1970-01-01 in UTC.
-/

namespace PredictionMarket

open Calendar (Instant)
open Decimal (Double)

/-- The least natural number that no signed 64-bit word holds. -/
def signedBound : Nat := 9223372036854775808

/-- A number as a signed 64-bit word, if it is an integer that fits. -/
def Number.signedWord? : Number → Option Int
  | .integer value => if value.toInt < signedBound then some value.toInt else none
  | .double _ => none

/-- The milliseconds that a number counts. A number that is no signed word is taken as its
nearest binary64 value with the fraction cut off, and not at all where that value is too
great for a signed word. -/
def Number.millis? (number : Number) : Option Int :=
  match number.signedWord? with
  | some millis => some millis
  | none => (number.toDouble?.filter (·.absLessThan signedBound)).map Double.truncate

/-- The instant that an attestation value denotes; a value that is not given is
missing. -/
def attestationInstant (value : Option Json) : Except AttestationFault Instant :=
  match value with
  | none | some .null => throw .missing
  | some (.string text) =>
    match Instant.ofText? (Text.trim text.toList) with
    | some instant => pure instant
    | none => throw (.notAnInstant text)
  | some (.number number) =>
    match number.millis?.bind Instant.ofMillis? with
    | some instant => pure instant
    | none => throw (.outsideCalendar number)
  | some value => throw (.wrongKind value)

end PredictionMarket
