import PredictionMarket.Proofs.Calendar.Documented
import PredictionMarket.Proofs.Decimal.Order
import PredictionMarket.Proofs.Decimal.Truncation
import PredictionMarket.Proofs.Json.Amount

/-!
# Attestation times in milliseconds

A number counts milliseconds with its fraction cut off toward zero. The way through a signed word
and the nearest binary64 value neither saturates nor loses anything that the calendar holds
(`millis?_eq_some`, `millis?_of_small`), so a number is an attestation time exactly when its
milliseconds lie in the calendar, and then its second is rounded down
(`milliseconds_never_saturate`).
-/

namespace PredictionMarket

open Calendar (Instant Moment Date)
open Decimal (Double towardZero towardZero_intCast)

namespace Calendar

/-- The whole milliseconds from 1970-01-01T00:00:00 UTC to an instant. -/
def Instant.millis (instant : Instant) : ℤ := instant.seconds * 1000 + instant.nanos / 1000000

/-- The first moment of the calendar. -/
def firstMoment : Moment := ⟨⟨-262143, 1, 1⟩, some ⟨0, 0, 0, 0, some 0⟩⟩

/-- The last millisecond of the calendar. -/
def lastMoment : Moment := ⟨⟨262142, 12, 31⟩, some ⟨23, 59, 59, 999000000, some 0⟩⟩

/-- Milliseconds of which none lies outside the calendar. -/
def InMillis (millis : ℤ) : Prop :=
  firstMoment.instant.millis ≤ millis ∧ millis ≤ lastMoment.instant.millis

/-- The milliseconds at which the calendar begins. -/
theorem millis_firstMoment : firstMoment.instant.millis = firstSecond * 1000 := by
  have counted := Date.dayNumber_eq_countedDays ⟨-262143, 1, 1⟩ (by decide)
  simp only [Instant.millis, Moment.instant, firstMoment, ← counted, firstSecond, firstYear]
  decide

/-- The milliseconds at which it ends. -/
theorem millis_lastMoment : lastMoment.instant.millis = endSecond * 1000 - 1 := by
  have counted := Date.dayNumber_eq_countedDays ⟨262142, 12, 31⟩ (by decide)
  simp only [Instant.millis, Moment.instant, lastMoment, ← counted, endSecond, lastYear]
  decide

/-- Milliseconds denote an instant when they lie in the calendar: the second is rounded down, and
the rest are nanoseconds. -/
theorem Instant.ofMillis?_eq_some_iff {millis : ℤ} {instant : Instant} :
    ofMillis? millis = some instant ↔ InMillis millis ∧
      instant.seconds = ⌊(millis : ℚ) / 1000⌋ ∧
      (instant.nanos : ℤ) = millis % 1000 * 1000000 := by
  have floor : ⌊(millis : ℚ) / 1000⌋ = millis / 1000 := Rat.floor_intCast_div_natCast millis 1000
  rw [ofMillis?, inCalendar?_eq_some_iff, InMillis, millis_firstMoment, millis_lastMoment, floor]
  obtain ⟨seconds, nanos⟩ := instant
  simp only [mk.injEq]
  omega

/-- All other milliseconds denote none. -/
theorem Instant.ofMillis?_eq_none_iff {millis : ℤ} :
    ofMillis? millis = none ↔ ¬ InMillis millis := by
  rw [ofMillis?, inCalendar?, InMillis, millis_firstMoment, millis_lastMoment,
    ite_eq_right_iff]
  simp only [reduceCtorEq, imp_false]
  omega

/-- Milliseconds in the calendar are far below the bound of signed words. -/
theorem InMillis.natAbs_lt {millis : ℤ} (inside : InMillis millis) :
    millis.natAbs < signedBound := by
  rw [InMillis, millis_firstMoment, millis_lastMoment] at inside
  have first : -(signedBound : ℤ) < firstSecond * 1000 := by decide
  have last : endSecond * 1000 ≤ signedBound := by decide
  omega

end Calendar

open Calendar (InMillis)

/-- The bound of signed words is a binary64 value. -/
theorem Decimal.Double.exists_steps_signedBound :
    ∃ border : Double, border.steps = signedBound * stepsPerOne :=
  ⟨⟨false, Nat.pow 2 52, 1085, by decide, by decide, .inr (by decide)⟩, by decide +kernel⟩

/-- An integer from the bound on is not below it as a binary64 value either. -/
theorem Decimal.Double.natAbs_lt_of_ofInt? {n : ℤ} {nearest : Double}
    (converted : ofInt? n = some nearest) (below : nearest.absLessThan signedBound = true) :
    n.natAbs < signedBound := by
  obtain ⟨border, isBound⟩ := exists_steps_signedBound
  have smaller : nearest.steps < border.steps := isBound ▸ decide_eq_true_iff.1 below
  have steps := (rounds_of_ofQuotient? Nat.one_pos converted).lt_of_steps_lt
    (border.rounds_steps Nat.one_pos) Nat.one_pos smaller
  rw [Nat.mul_one, isBound] at steps
  exact Nat.lt_of_mul_lt_mul_right steps

namespace Number

variable {number : Number} {millis : ℤ}

/-- The number that a JSON number is. -/
def toRat : Number → ℚ
  | integer word => word.toInt
  | double value => value.toRat

/-- The milliseconds of a number are the number with its fraction cut off. -/
theorem millis?_eq_some (counted : number.millis? = some millis) :
    millis = towardZero number.toRat := by
  cases number with
  | integer word =>
    rw [toRat, towardZero_intCast]
    by_cases fits : word.toInt < signedBound
    · simp only [millis?, signedWord?, if_pos fits] at counted
      exact (Option.some.inj counted).symm
    · -- What is no signed word is too great as a binary64 value too.
      simp only [millis?, signedWord?, if_neg fits, Option.map_eq_some_iff,
        Option.filter_eq_some_iff] at counted
      obtain ⟨nearest, ⟨converted, below⟩, -⟩ := counted
      have small := Double.natAbs_lt_of_ofInt? converted below
      omega
  | double value =>
    simp only [millis?, signedWord?, toDouble?, Option.map_eq_some_iff,
      Option.filter_eq_some_iff, Option.some.injEq] at counted
    obtain ⟨_, ⟨rfl, -⟩, rfl⟩ := counted
    exact value.truncate_eq

/-- A number that is in the signed words with its fraction cut off counts milliseconds. -/
theorem millis?_of_small (small : (towardZero number.toRat).natAbs < signedBound) :
    number.millis? = some (towardZero number.toRat) := by
  cases number with
  | integer word =>
    rw [toRat, towardZero_intCast] at small ⊢
    have fits : word.toInt < signedBound := by omega
    simp only [millis?, signedWord?, if_pos fits]
  | double value =>
    rw [toRat, ← Double.truncate_eq] at small ⊢
    have below := Double.absLessThan_iff_truncate.2 small
    simp only [millis?, signedWord?, toDouble?, Option.filter_some, below, if_true,
      Option.map_some]

/-- The instant of a number is that of the number with its fraction cut off. -/
theorem bind_ofMillis? (number : Number) :
    number.millis?.bind Instant.ofMillis? = Instant.ofMillis? (towardZero number.toRat) := by
  ext instant
  rw [Option.bind_eq_some_iff]
  constructor
  · rintro ⟨millis, counted, denoted⟩
    rwa [← millis?_eq_some counted]
  · intro denoted
    have inside := (Instant.ofMillis?_eq_some_iff.1 denoted).1
    exact ⟨_, millis?_of_small inside.natAbs_lt, denoted⟩

/-- A number from the bound of signed words on lies outside the calendar. -/
theorem not_inMillis_of_bound_le (great : (signedBound : ℚ) ≤ |number.toRat|) :
    ¬ InMillis (towardZero number.toRat) := by
  intro inside
  refine great.not_gt ?_
  have small := inside.natAbs_lt
  cases number with
  | integer word =>
    rw [toRat, towardZero_intCast] at small
    rw [toRat, ← Int.cast_abs, ← Nat.cast_natAbs]
    exact_mod_cast small
  | double value =>
    rw [toRat, ← Double.truncate_eq] at small
    exact Double.absLessThan_iff.1 (Double.absLessThan_iff_truncate.2 small)

end Number

/-- A number is an attestation time if its milliseconds denote an instant, and a fault if not. -/
theorem attestationInstant_number (number : Number) :
    attestationInstant (some (.number number)) =
      (Instant.ofMillis? (towardZero number.toRat)).elim
        (.error (.outsideCalendar number)) .ok := by
  rw [attestationInstant, Number.bind_ofMillis?]
  cases Instant.ofMillis? (towardZero number.toRat) <;> rfl

/-- A number is an attestation time exactly when, its fraction cut off, it counts milliseconds in
the calendar; the second is rounded down and the nanoseconds are what is left, which is not
negative. Every other number lies outside the calendar, among them those that no signed word
holds. -/
theorem milliseconds_never_saturate (number : Number) :
    (∀ instant, attestationInstant (some (.number number)) = .ok instant ↔
      InMillis (towardZero number.toRat) ∧
      instant.seconds = ⌊(towardZero number.toRat : ℚ) / 1000⌋ ∧
      (instant.nanos : ℤ) = towardZero number.toRat % 1000 * 1000000) ∧
    (∀ fault, attestationInstant (some (.number number)) = .error fault ↔
      ¬ InMillis (towardZero number.toRat) ∧ fault = .outsideCalendar number) ∧
    (2 ^ 63 ≤ |number.toRat| →
      attestationInstant (some (.number number)) = .error (.outsideCalendar number)) := by
  have failed : ∀ fault, attestationInstant (some (.number number)) = .error fault ↔
      ¬ InMillis (towardZero number.toRat) ∧ fault = .outsideCalendar number := by
    intro fault
    rw [attestationInstant_number, elim_eq_error_iff, Instant.ofMillis?_eq_none_iff]
  refine ⟨fun instant => ?_, failed, fun great => (failed _).2 ⟨?_, rfl⟩⟩
  · rw [attestationInstant_number, elim_eq_ok_iff, Instant.ofMillis?_eq_some_iff]
  · refine Number.not_inMillis_of_bound_le (le_of_eq_of_le ?_ great)
    norm_num [signedBound]

/-- One millisecond and three quarters of one before the first of January 1970. -/
def beforeEpoch : Double := ⟨true, 7 * Nat.pow 2 50, 1022, by decide, by decide, .inr (by decide)⟩

/-- The integer that is the bound of signed words, which an unsigned word holds. -/
def unsignedWord : WordInt := ⟨signedBound, by decide, by decide⟩

/-- A fraction of a millisecond is cut off toward zero and the second is rounded down; what no
signed word holds is outside the calendar and not at its end. -/
theorem milliseconds_before_epoch_and_from_the_bound :
    attestationInstant (some (.number (.double beforeEpoch))) = .ok ⟨-1, 999000000⟩ ∧
      attestationInstant (some (.number (.integer unsignedWord))) =
        .error (.outsideCalendar (.integer unsignedWord)) := by
  have cut : towardZero (Number.toRat (.double beforeEpoch)) = -1 := by
    rw [Number.toRat, ← Double.truncate_eq]
    decide +kernel
  constructor
  · refine ((milliseconds_never_saturate _).1 _).2 ?_
    rw [cut, InMillis, Calendar.millis_firstMoment, Calendar.millis_lastMoment]
    exact ⟨by decide, by norm_num, by decide⟩
  · refine (milliseconds_never_saturate _).2.2 ?_
    norm_num [Number.toRat, unsignedWord, signedBound]

end PredictionMarket
