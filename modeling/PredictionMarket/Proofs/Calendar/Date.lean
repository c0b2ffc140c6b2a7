import PredictionMarket.Calendar.Instant

/-!
# Dates and day numbers

Counting days and naming them by dates are inverse to each other. A day is placed in its
cycle of 400 years by its century, its group of four years, its year and its day of the
year, all counted from March; the last year of a group has a leap day, except that the last
group of a century has none unless the century is the last one.
-/

namespace PredictionMarket.Calendar

/-- The place of a day in the cycle of 400 years, which begins with a March. -/
structure CyclePlace where
  century : Int
  group : Int
  year : Int
  dayOfYear : Int
  century_range : 0 ≤ century ∧ century ≤ 3
  group_range : 0 ≤ group ∧ group ≤ 24
  year_range : 0 ≤ year ∧ year ≤ 3
  dayOfYear_nonneg : 0 ≤ dayOfYear
  /-- Only a leap year has a day 365. -/
  dayOfYear_range : dayOfYear ≤ 364 ∨
    dayOfYear = 365 ∧ year = 3 ∧ (group ≤ 23 ∨ century = 3)

namespace CyclePlace

/-- The number of days of the cycle before the day. -/
def dayOfCycle (place : CyclePlace) : Int :=
  36524 * place.century + 1461 * place.group + 365 * place.year + place.dayOfYear

/-- The number of years of the cycle before the year. -/
def yearOfCycle (place : CyclePlace) : Int :=
  100 * place.century + 4 * place.group + place.year

/-- Every day of the cycle has a place. -/
theorem exists_of_dayOfCycle {dayOfCycle : Int} (lower : 0 ≤ dayOfCycle)
    (upper : dayOfCycle < daysPerCycle) :
    ∃ place : CyclePlace, place.dayOfCycle = dayOfCycle := by
  unfold daysPerCycle at upper
  -- The last day of the last century and of a group would begin another one.
  let century := min (dayOfCycle / 36524) 3
  let group := (dayOfCycle - 36524 * century) / 1461
  let year := min ((dayOfCycle - 36524 * century) % 1461 / 365) 3
  refine ⟨⟨century, group, year,
    dayOfCycle - 36524 * century - 1461 * group - 365 * year, ?_, ?_, ?_, ?_, ?_⟩, ?_⟩
  all_goals simp only [CyclePlace.dayOfCycle, century, group, year]; omega

variable (place : CyclePlace)

/-- The year of the cycle is found from the day of the cycle. -/
theorem yearOfCycle_eq :
    (place.dayOfCycle - place.dayOfCycle / 1460 + place.dayOfCycle / 36524 -
      place.dayOfCycle / 146096) / 365 = place.yearOfCycle := by
  obtain ⟨century, group, year, dayOfYear, centuryRange, groupRange, yearRange, nonneg, range⟩ :=
    place
  simp only [dayOfCycle, yearOfCycle]
  generalize total : 36524 * century + 1461 * group + 365 * year + dayOfYear = days
  have centuries : days / 36524 - days / 146096 = century := by
    have last : days / 146096 = 0 ∨ days / 146096 = 1 := by omega
    rcases last with before | last <;> omega
  -- Days of 1460 counted out exceed the groups by one for every century and 24 more.
  have groups : days / 1460 = 25 * century + group ∧ dayOfYear ≤ 364 ∨
      days / 1460 = 25 * century + group + 1 ∧ 1 ≤ dayOfYear := by omega
  omega

/-- The day of the year is what the days of the earlier years leave. -/
theorem dayOfYear_eq :
    place.dayOfCycle - (365 * place.yearOfCycle + place.yearOfCycle / 4 -
      place.yearOfCycle / 100) = place.dayOfYear := by
  obtain ⟨century, group, year, dayOfYear, centuryRange, groupRange, yearRange, nonneg, range⟩ :=
    place
  simp only [dayOfCycle, yearOfCycle]
  omega

end CyclePlace

namespace Date

/-- The number of days from 0000-03-01 to the first of March of a year. -/
def marchDay (year : Int) : Int := 365 * year + year / 4 - year / 100 + year / 400

/-- Whole cycles and the days of a place in the next one make up the days to the first of
March and those since then. -/
theorem marchDay_cyclePlace (cycles : Int) (place : CyclePlace) :
    marchDay (cycles * 400 + place.yearOfCycle) + place.dayOfYear =
      cycles * daysPerCycle + place.dayOfCycle := by
  obtain ⟨century, group, year, dayOfYear, centuryRange, groupRange, yearRange, nonneg, range⟩ :=
    place
  simp only [marchDay, CyclePlace.yearOfCycle, CyclePlace.dayOfCycle, daysPerCycle]
  generalize isYear : cycles * 400 + (100 * century + 4 * group + year) = years
  have fours : years / 4 = 100 * cycles + 25 * century + group := by omega
  have hundreds : years / 100 = 4 * cycles + century := by omega
  have cycle : years / 400 = cycles := by omega
  rw [fours, hundreds, cycle]
  omega

/-- The date of a day of a year, both counted from March. -/
def ofMarch (year dayOfYear : Int) : Date :=
  let month := (5 * dayOfYear + 2) / 153
  let day := dayOfYear - (153 * month + 2) / 5 + 1
  if month < 10 then ⟨year, (month + 3).toNat, day.toNat⟩
  else ⟨year + 1, (month - 9).toNat, day.toNat⟩

/-- A date counts the days to the first of March and those of the months since then. -/
theorem dayNumber_ofMarch {year dayOfYear : Int} (lower : 0 ≤ dayOfYear)
    (upper : dayOfYear ≤ 365) :
    (ofMarch year dayOfYear).dayNumber = marchDay year + dayOfYear - daysToEpoch := by
  have cycles : year / 400 * 146097 +
      (year % 400 * 365 + year % 400 / 4 - year % 400 / 100) =
        365 * year + year / 4 - year / 100 + year / 400 := by omega
  simp only [ofMarch]
  generalize isMonth : (5 * dayOfYear + 2) / 153 = month
  split
  · have late : ¬ (month + 3).toNat ≤ 2 := by omega
    simp only [dayNumber, if_neg late, marchDay, daysPerCycle, ← cycles]
    omega
  · have early : (month - 9).toNat ≤ 2 := by omega
    simp only [dayNumber, if_pos early, marchDay, daysPerCycle, ← cycles,
      Int.add_sub_cancel]
    omega

/-- A date counted from March exists when only a year before a leap day has a day 365. -/
theorem exists?_ofMarch {year dayOfYear : Int} (lower : 0 ≤ dayOfYear)
    (upper : dayOfYear ≤ 364 ∨ dayOfYear = 365 ∧ isLeapYear (year + 1) = true) :
    (ofMarch year dayOfYear).exists? = true := by
  simp only [ofMarch]
  generalize isMonth : (5 * dayOfYear + 2) / 153 = month
  have exist : ∀ date : Date, 1 ≤ date.day → date.day ≤ daysInMonth date.year date.month →
      date.exists? = true := fun date first last => by simp [exists?, first, last]
  by_cases february : month = 11
  · -- Only here, where a year that is counted from March ends, its last day matters.
    subst february
    refine exist _ (by simp; omega) ?_
    rcases upper with short | ⟨last, leap⟩
    · have length : 28 ≤ daysInMonth (year + 1) 2 := by
        simp only [daysInMonth]
        split <;> omega
      simp
      omega
    · simp [daysInMonth, leap]
      omega
  · have months : month = 0 ∨ month = 1 ∨ month = 2 ∨ month = 3 ∨ month = 4 ∨ month = 5 ∨
        month = 6 ∨ month = 7 ∨ month = 8 ∨ month = 9 ∨ month = 10 := by omega
    rcases months with rfl | rfl | rfl | rfl | rfl | rfl | rfl | rfl | rfl | rfl | rfl
    all_goals
      refine exist _ (by simp; omega) ?_
      simp [daysInMonth]
      omega

/-- The year of a date counted from March ends with the day 305. -/
theorem year_ofMarch {year dayOfYear : Int} :
    (ofMarch year dayOfYear).year = if dayOfYear < 306 then year else year + 1 := by
  simp only [ofMarch]
  by_cases early : dayOfYear < 306
  · have month : (5 * dayOfYear + 2) / 153 < 10 := by omega
    rw [if_pos early, if_pos month]
  · have month : ¬ (5 * dayOfYear + 2) / 153 < 10 := by omega
    rw [if_neg early, if_neg month]

/-- The date of a day number is a date counted from March: the days of the whole cycles and
the days of the place in the last cycle add up to the day number. -/
theorem exists_ofMarch_eq_ofDayNumber (dayNumber : Int) :
    ∃ year dayOfYear, ofDayNumber dayNumber = ofMarch year dayOfYear ∧ 0 ≤ dayOfYear ∧
      (dayOfYear ≤ 364 ∨ dayOfYear = 365 ∧ isLeapYear (year + 1) = true) ∧
      marchDay year + dayOfYear - daysToEpoch = dayNumber := by
  obtain ⟨place, isPlace⟩ := CyclePlace.exists_of_dayOfCycle
    (Int.emod_nonneg (dayNumber + daysToEpoch) (by decide : daysPerCycle ≠ 0))
    (Int.emod_lt_of_pos (dayNumber + daysToEpoch) (by decide : 0 < daysPerCycle))
  have years := place.yearOfCycle_eq
  have days := place.dayOfYear_eq
  refine ⟨(dayNumber + daysToEpoch) / daysPerCycle * 400 + place.yearOfCycle, place.dayOfYear,
    ?_, place.dayOfYear_nonneg, place.dayOfYear_range.imp_right fun leapDay => ⟨leapDay.1, ?_⟩, ?_⟩
  · rw [isPlace] at years days
    simp only [ofDayNumber, ofMarch, years, days]
  · have century := place.century_range
    have group := place.group_range
    simp only [isLeapYear, CyclePlace.yearOfCycle, Bool.and_eq_true, Bool.or_eq_true, beq_iff_eq,
      bne_iff_ne]
    omega
  · rw [marchDay_cyclePlace, isPlace, Int.ediv_mul_add_emod]
    omega

/-- Naming a day by its date and counting the days to that date gives the day again. -/
theorem dayNumber_ofDayNumber (dayNumber : Int) :
    (ofDayNumber dayNumber).dayNumber = dayNumber := by
  obtain ⟨year, dayOfYear, same, nonneg, upper, total⟩ :=
    exists_ofMarch_eq_ofDayNumber dayNumber
  rw [same, dayNumber_ofMarch nonneg (by omega), total]

/-- The date of every day exists. -/
theorem exists?_ofDayNumber (dayNumber : Int) : (ofDayNumber dayNumber).exists? = true := by
  obtain ⟨year, dayOfYear, same, nonneg, upper, -⟩ := exists_ofMarch_eq_ofDayNumber dayNumber
  rw [same]
  exact exists?_ofMarch nonneg upper

/-- A date that exists has figures of two digits for its month and its day. -/
theorem lt_hundred_of_exists? {date : Date} (real : date.exists? = true) :
    date.month < 100 ∧ date.day < 100 := by
  simp only [exists?, Bool.and_eq_true, decide_eq_true_eq] at real
  obtain ⟨first, last⟩ := real
  revert last
  fun_cases daysInMonth date.year date.month <;> intro last <;> omega

/-- The days before the first January of the calendar have earlier years. -/
theorem firstYear_le_year {dayNumber : Int}
    (begun : Date.dayNumber ⟨firstYear, 1, 1⟩ ≤ dayNumber) :
    firstYear ≤ (ofDayNumber dayNumber).year := by
  obtain ⟨year, dayOfYear, same, nonneg, upper, total⟩ :=
    exists_ofMarch_eq_ofDayNumber dayNumber
  have first : Date.dayNumber ⟨firstYear, 1, 1⟩ = -96465292 := by decide
  rw [same, year_ofMarch]
  simp only [marchDay, daysToEpoch] at total
  unfold firstYear
  split <;> omega

/-- The days before the January behind the calendar have no later year. -/
theorem year_le_lastYear {dayNumber : Int}
    (ended : dayNumber < Date.dayNumber ⟨lastYear + 1, 1, 1⟩) :
    (ofDayNumber dayNumber).year ≤ lastYear := by
  obtain ⟨year, dayOfYear, same, nonneg, upper, total⟩ :=
    exists_ofMarch_eq_ofDayNumber dayNumber
  have behind : Date.dayNumber ⟨lastYear + 1, 1, 1⟩ = 95026237 := by decide
  rw [same, year_ofMarch]
  simp only [marchDay, daysToEpoch] at total
  unfold lastYear
  split <;> omega

end Date

/-- The calendar begins with a day. -/
theorem firstSecond_le_iff {seconds : Int} :
    firstSecond ≤ seconds ↔
      Date.dayNumber ⟨firstYear, 1, 1⟩ ≤ seconds / secondsPerDay := by
  unfold firstSecond secondsPerDay
  omega

/-- The calendar ends with a day. -/
theorem lt_endSecond_iff {seconds : Int} :
    seconds < endSecond ↔
      seconds / secondsPerDay < Date.dayNumber ⟨lastYear + 1, 1, 1⟩ := by
  unfold endSecond secondsPerDay
  omega

end PredictionMarket.Calendar
