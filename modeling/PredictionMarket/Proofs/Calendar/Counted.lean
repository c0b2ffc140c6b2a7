import Mathlib.Tactic.IntervalCases
import PredictionMarket.Proofs.Calendar.Date

/-!
# Day numbers by counting

The day number of a date is what counting gives: the days of all years between 1970 and the
year of the date, the days of the months before it, and the days of the month before it. A
year has a leap day more than 365 days exactly when it is a leap year.
-/

namespace PredictionMarket.Calendar

/-- The number of days of a year. -/
def daysInYear (year : Int) : Int := if isLeapYear year then 366 else 365

/-- The number of days of so many years from a year on. -/
def daysOfYears (year : Int) : Nat → Int
  | 0 => 0
  | count + 1 => daysOfYears year count + daysInYear (year + count)

/-- The number of days from 1970-01-01 to the first day of a year, negative before 1970. -/
def daysBeforeYear (year : Int) : Int :=
  daysOfYears 1970 (year - 1970).toNat - daysOfYears year (1970 - year).toNat

/-- The number of days of a year before a month. -/
def daysBeforeMonth (year : Int) (month : Nat) : Nat :=
  ((List.range month).map (daysInMonth year)).sum

/-- The number of days from 1970-01-01 to a date, by years, months and days. -/
def Date.countedDays (date : Date) : Int :=
  daysBeforeYear date.year + daysBeforeMonth date.year date.month + (date.day - 1)

/-- The first of some years may be counted apart from the later ones. -/
theorem daysOfYears_add_one (year : Int) (count : Nat) :
    daysOfYears year (count + 1) = daysInYear year + daysOfYears (year + 1) count := by
  induction count with
  | zero => simp [daysOfYears]
  | succ count inductionHypothesis =>
    have last : year + (count + 1 : Nat) = year + 1 + count := by omega
    rw [daysOfYears, inductionHypothesis, daysOfYears, last, Int.add_assoc]

/-- The next year begins when a year is over. -/
theorem daysBeforeYear_add_one (year : Int) :
    daysBeforeYear (year + 1) = daysBeforeYear year + daysInYear year := by
  unfold daysBeforeYear
  rcases le_or_gt 1970 year with late | early
  · obtain ⟨count, rfl⟩ := Int.le.dest late
    have passed : (1970 + count - 1970 : Int).toNat = count := by omega
    have passedNext : (1970 + count + 1 - 1970 : Int).toNat = count + 1 := by omega
    have missing : (1970 - (1970 + count) : Int).toNat = 0 := by omega
    have missingNext : (1970 - (1970 + count + 1) : Int).toNat = 0 := by omega
    rw [passed, passedNext, missing, missingNext]
    simp only [daysOfYears, Int.sub_zero]
  · obtain ⟨count, last⟩ := Int.le.dest (early : year + 1 ≤ 1970)
    have passed : (year - 1970).toNat = 0 := by omega
    have passedNext : (year + 1 - 1970).toNat = 0 := by omega
    have missing : (1970 - year).toNat = count + 1 := by omega
    have missingNext : (1970 - (year + 1)).toNat = count := by omega
    rw [passed, passedNext, missing, missingNext, daysOfYears_add_one]
    simp only [daysOfYears]
    omega

namespace Date

/-- From one first of March to the next one there are the days of the later year, whose leap
day comes first. -/
theorem marchDay_add_one (year : Int) :
    marchDay (year + 1) = marchDay year + daysInYear (year + 1) := by
  simp only [marchDay, daysInYear, isLeapYear, Bool.and_eq_true, Bool.or_eq_true, beq_iff_eq,
    bne_iff_ne]
  split <;> omega

/-- The days before a year are those before the March of the year before and 306 more. -/
theorem daysBeforeYear_eq (year : Int) :
    daysBeforeYear year = marchDay (year - 1) + 306 - daysToEpoch := by
  have step : ∀ year : Int, marchDay year = marchDay (year - 1) + daysInYear year := by
    intro year
    have next := marchDay_add_one (year - 1)
    rwa [Int.sub_add_cancel] at next
  refine Int.inductionOn' year 1970 rfl (fun year _ inductionHypothesis => ?_)
    (fun year _ inductionHypothesis => ?_)
  · rw [daysBeforeYear_add_one, inductionHypothesis, Int.add_sub_cancel, step year]
    omega
  · have before := daysBeforeYear_add_one (year - 1)
    rw [Int.sub_add_cancel, inductionHypothesis] at before
    have march := step (year - 1)
    omega

/-- The day number of a date counts the days to the first of March and those since then. -/
theorem dayNumber_eq_marchDay (date : Date) :
    date.dayNumber = (if date.month ≤ 2 then
      marchDay (date.year - 1) + ((153 * (date.month + 9) + 2) / 5 : Int)
      else marchDay date.year + ((153 * (date.month - 3) + 2) / 5 : Int)) +
        (date.day - 1) - daysToEpoch := by
  have cycles : ∀ year : Int, year / 400 * 146097 +
      (year % 400 * 365 + year % 400 / 4 - year % 400 / 100) = marchDay year := by
    intro year
    unfold marchDay
    omega
  have march := cycles date.year
  have marchBefore := cycles (date.year - 1)
  simp only [dayNumber, daysPerCycle]
  split <;> omega

/-- Behind February the months have 153 days in five. -/
theorem daysBeforeMonth_eq (year : Int) {month : Nat} (real : 1 ≤ month ∧ month ≤ 12) :
    daysBeforeMonth year month = if month ≤ 2 then 31 * (month - 1)
      else (153 * (month - 3) + 2) / 5 + 31 + daysInMonth year 2 := by
  obtain ⟨first, last⟩ := real
  interval_cases month <;> simp [daysBeforeMonth, List.range_succ, daysInMonth] <;> omega

/-- Day numbers are counted days. -/
theorem dayNumber_eq_countedDays (date : Date) (real : 1 ≤ date.month ∧ date.month ≤ 12) :
    date.dayNumber = date.countedDays := by
  have march := marchDay_add_one (date.year - 1)
  have february : daysInYear date.year = 337 + daysInMonth date.year 2 := by
    unfold daysInYear daysInMonth
    split <;> rfl
  rw [Int.sub_add_cancel, february] at march
  rw [dayNumber_eq_marchDay, countedDays, daysBeforeYear_eq, daysBeforeMonth_eq _ real, march]
  split <;> omega

/-- Only the months from 1 to 12 have dates. -/
theorem month_of_exists? {date : Date} (real : date.exists? = true) :
    1 ≤ date.month ∧ date.month ≤ 12 := by
  simp only [exists?, Bool.and_eq_true, decide_eq_true_eq] at real
  obtain ⟨first, last⟩ := real
  revert last
  fun_cases daysInMonth date.year date.month <;> intro last <;> omega

end Date

end PredictionMarket.Calendar
