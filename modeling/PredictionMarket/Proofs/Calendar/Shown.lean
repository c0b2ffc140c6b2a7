import Mathlib.Tactic.IntervalCases
import PredictionMarket.Calendar.Display
import PredictionMarket.Proofs.Calendar.Counted
import PredictionMarket.Proofs.Calendar.Regular

/-!
# What a clock shows

A clock with a fixed offset shows, at every regular instant, one date that exists and one time
of day: those that add up to the second of the clock, counted by years, months and days, with
one second more in a leap second. The texts of an instant are those of its date and its time,
in figures or in the words of the English months.
-/

namespace PredictionMarket.Calendar

namespace Date

/-- The days before a month end where the month begins. -/
theorem daysBeforeMonth_add_one (year : Int) (month : Nat) :
    daysBeforeMonth year (month + 1) = daysBeforeMonth year month + daysInMonth year month := by
  simp [daysBeforeMonth, List.range_succ]

/-- A later month has no fewer days before it. -/
theorem daysBeforeMonth_le (year : Int) {month later : Nat} (le : month ≤ later) :
    daysBeforeMonth year month ≤ daysBeforeMonth year later :=
  monotone_nat_of_le_succ (fun month => by
    rw [daysBeforeMonth_add_one]
    exact Nat.le_add_right _ _) le

/-- A later year has no fewer days before it. -/
theorem daysBeforeYear_le {year later : Int} (le : year ≤ later) :
    daysBeforeYear year ≤ daysBeforeYear later :=
  monotone_int_of_le_succ (fun year => by
    rw [daysBeforeYear_add_one]
    unfold daysInYear
    split <;> omega) le

/-- The twelve months have the days of the year. -/
theorem daysBeforeMonth_thirteen (year : Int) :
    (daysBeforeMonth year 13 : Int) = daysInYear year := by
  have february : daysInYear year = 337 + daysInMonth year 2 := by
    unfold daysInYear daysInMonth
    split <;> rfl
  rw [daysBeforeMonth_add_one, daysBeforeMonth_eq year (by decide), february, daysInMonth]
  simp
  omega

variable {first second : Date}

/-- A date that exists lies in its month. -/
theorem day_bounds (real : first.exists? = true) :
    1 ≤ first.day ∧ first.day ≤ daysInMonth first.year first.month := by
  simpa only [exists?, Bool.and_eq_true, decide_eq_true_eq] using real

/-- Counting to a date that exists does not leave its year. -/
theorem countedDays_lt (real : first.exists? = true) :
    daysBeforeYear first.year ≤ first.countedDays ∧
      first.countedDays < daysBeforeYear (first.year + 1) := by
  obtain ⟨dayFrom, dayTo⟩ := day_bounds real
  have inYear : daysBeforeMonth first.year (first.month + 1) ≤ daysBeforeMonth first.year 13 :=
    daysBeforeMonth_le _ (Nat.succ_le_succ (month_of_exists? real).2)
  have year := daysBeforeMonth_thirteen first.year
  rw [daysBeforeMonth_add_one] at inYear
  rw [daysBeforeYear_add_one, countedDays]
  omega

/-- Dates to which one counts alike are in one year. -/
theorem year_le_of_countedDays_eq (real : first.exists? = true)
    (otherReal : second.exists? = true) (same : first.countedDays = second.countedDays) :
    first.year ≤ second.year := by
  by_contra later
  have behind : daysBeforeYear (second.year + 1) ≤ daysBeforeYear first.year :=
    daysBeforeYear_le (by omega)
  have firstFrom := (countedDays_lt real).1
  have secondTo := (countedDays_lt otherReal).2
  omega

/-- Of two dates of one year to which one counts alike neither is in a later month. -/
theorem month_le_of_countedDays_eq (real : first.exists? = true)
    (otherReal : second.exists? = true) (oneYear : first.year = second.year)
    (same : first.countedDays = second.countedDays) : first.month ≤ second.month := by
  by_contra later
  have behind : daysBeforeMonth first.year (second.month + 1) ≤
      daysBeforeMonth first.year first.month := daysBeforeMonth_le _ (by omega)
  have firstFrom := (day_bounds real).1
  have secondTo := (day_bounds otherReal).2
  rw [daysBeforeMonth_add_one, oneYear] at behind
  rw [countedDays, countedDays, oneYear] at same
  omega

/-- Counting to the dates that exist tells them apart. -/
theorem eq_of_countedDays_eq (real : first.exists? = true) (otherReal : second.exists? = true)
    (same : first.countedDays = second.countedDays) : first = second := by
  have year : first.year = second.year := Int.le_antisymm
    (year_le_of_countedDays_eq real otherReal same)
    (year_le_of_countedDays_eq otherReal real same.symm)
  have month : first.month = second.month := Nat.le_antisymm
    (month_le_of_countedDays_eq real otherReal year same)
    (month_le_of_countedDays_eq otherReal real year.symm same.symm)
  have firstFrom := (day_bounds real).1
  have secondFrom := (day_bounds otherReal).1
  rw [countedDays, countedDays, year, month] at same
  have day : first.day = second.day := by omega
  calc first = ⟨first.year, first.month, first.day⟩ := rfl
    _ = ⟨second.year, second.month, second.day⟩ := by rw [year, month, day]

end Date

/-- What a clock shows at an instant that is ahead of UTC by a number of seconds: the date
exists, and date and time add up to the second of the clock. Only in a leap second is the second
that is shown one more than the one that counts. -/
structure Instant.Shows (instant : Instant) (offset : Int) (civil : Civil) : Prop where
  date_exists : civil.date.exists? = true
  hour_lt : civil.hour < 24
  minute_lt : civil.minute < 60
  counted : ∃ second < 60,
    civil.second = (if instant.inLeapSecond then second + 1 else second) ∧
      instant.seconds + offset =
        86400 * civil.date.countedDays + 3600 * civil.hour + 60 * civil.minute + second

section Clocks

variable {instant : Instant} {offset : Int} {civil other : Civil}

/-- A clock shows something at every regular instant. -/
theorem Instant.Regular.shows_civil (regular : instant.Regular) (offset : Int) :
    instant.Shows offset (instant.civil offset) := by
  have real := Date.exists?_ofDayNumber ((instant.seconds + offset) / secondsPerDay)
  have days := Date.dayNumber_ofDayNumber ((instant.seconds + offset) / secondsPerDay)
  rw [Date.dayNumber_eq_countedDays _ (Date.month_of_exists? real)] at days
  have leap : instant.nanos / nanosPerSecond = if instant.inLeapSecond then 1 else 0 := by
    have nanosLt := regular.nanos_lt
    unfold nanosPerSecond at nanosLt
    by_cases late : 1000000000 ≤ instant.nanos
    · simp [Instant.inLeapSecond, nanosPerSecond, late]
      omega
    · simp [Instant.inLeapSecond, nanosPerSecond, late]
      omega
  refine ⟨real, ?_, ?_, ((instant.seconds + offset) % secondsPerDay).toNat % 60,
    Nat.mod_lt _ (by decide), ?_, ?_⟩
  · simp only [Instant.civil, secondsPerDay]
    omega
  · simp only [Instant.civil, secondsPerDay]
    omega
  · simp only [Instant.civil, leap]
    split <;> rfl
  · simp only [Instant.civil]
    rw [days]
    unfold secondsPerDay
    omega

/-- A clock shows one thing at a time. -/
theorem Instant.Shows.unique (shown : instant.Shows offset civil)
    (alsoShown : instant.Shows offset other) : civil = other := by
  obtain ⟨real, hour, minute, second, secondLt, isSecond, total⟩ := shown
  obtain ⟨otherReal, otherHour, otherMinute, otherSecond, otherLt, isOther, otherTotal⟩ :=
    alsoShown
  have date : civil.date = other.date :=
    Date.eq_of_countedDays_eq real otherReal (by omega)
  rw [date] at total
  have hours : civil.hour = other.hour := by omega
  have minutes : civil.minute = other.minute := by omega
  have counted : second = otherSecond := by omega
  rw [counted, ← isOther] at isSecond
  calc civil = ⟨civil.date, civil.hour, civil.minute, civil.second⟩ := rfl
    _ = ⟨other.date, other.hour, other.minute, other.second⟩ := by
      rw [date, hours, minutes, isSecond]

/-- What a clock shows is what is computed for it. -/
theorem Instant.Regular.shows_iff (regular : instant.Regular) :
    instant.Shows offset civil ↔ civil = instant.civil offset :=
  ⟨fun shown => shown.unique (regular.shows_civil offset),
    fun same => same ▸ regular.shows_civil offset⟩

end Clocks

/-- The English name of a month. -/
def monthInWords (month : Nat) : String :=
  ["January", "February", "March", "April", "May", "June", "July", "August", "September",
    "October", "November", "December"].getD (month - 1) ""

/-- The short name of a month. -/
def shortMonth (month : Nat) : String :=
  ["Jan", "Feb", "Mar", "Apr", "May", "Jun", "Jul", "Aug", "Sep", "Oct", "Nov", "Dec"].getD
    (month - 1) ""

/-- A number in figures, with zeros in front up to a width. -/
def figures (width n : Nat) : String := String.ofList ((toString n).toList.leftpad width '0')

/-- A year in figures: four of them, or else a sign and four at least. -/
def yearFigures : Int → String
  | .ofNat year => if year < 10000 then figures 4 year else "+" ++ figures 4 year
  | .negSucc before => "-" ++ figures 4 (before + 1)

/-- A date in figures: `2025-02-20`. -/
def Date.inFigures (date : Date) : String :=
  s!"{yearFigures date.year}-{figures 2 date.month}-{figures 2 date.day}"

/-- A date with the name of its month: `February 20, 2025`. -/
def Date.inWords (date : Date) (month : String) : String :=
  s!"{month} {date.day}, {yearFigures date.year}"

section Texts

open Decimal (digits paddedDigits)

/-- Figures are padded digits. -/
theorem toList_figures (width n : Nat) : (figures width n).toList = paddedDigits width n := by
  rw [figures, String.toList_ofList, Nat.toString_eq_repr, Nat.toList_repr]
  rfl

/-- The figures of a year are its text. -/
theorem toList_yearFigures (year : Int) : (yearFigures year).toList = yearText year := by
  unfold yearFigures yearText
  cases year with
  | ofNat year =>
    have notNegative : ¬ Int.ofNat year < 0 := Int.not_lt.2 (Int.natCast_nonneg year)
    by_cases short : year < 10000
    · have plain : 0 ≤ Int.ofNat year ∧ Int.ofNat year ≤ 9999 := by
        simp only [Int.ofNat_eq_natCast]
        omega
      simp only [if_pos short, if_pos plain, toList_figures]
      rfl
    · have signed : ¬ (0 ≤ Int.ofNat year ∧ Int.ofNat year ≤ 9999) := by
        simp only [Int.ofNat_eq_natCast]
        omega
      simp only [if_neg short, if_neg signed, if_neg notNegative, String.toList_append,
        toList_figures]
      rfl
  | negSucc before =>
    have signed : ¬ (0 ≤ Int.negSucc before ∧ Int.negSucc before ≤ 9999) := fun plain =>
      absurd plain.1 (Int.not_le.2 (Int.negSucc_lt_zero before))
    simp only [if_neg signed, if_pos (Int.negSucc_lt_zero before), String.toList_append,
      toList_figures]
    rfl

/-- The name of a month is that of the list. -/
theorem monthName_eq {month : Nat} (real : 1 ≤ month ∧ month ≤ 12) :
    monthName month = monthInWords month := by
  obtain ⟨first, last⟩ := real
  interval_cases month <;> rfl

/-- The first three letters of the name of a month are its short name. -/
theorem take_monthName {month : Nat} (real : 1 ≤ month ∧ month ≤ 12) :
    (monthName month).toList.take 3 = (shortMonth month).toList := by
  obtain ⟨first, last⟩ := real
  interval_cases month <;> rfl

/-- The date in figures is the text of the date. -/
theorem toList_inFigures (civil : Civil) : civil.date.inFigures.toList = civil.dateText := by
  simp [Date.inFigures, Civil.dateText, toString, toList_figures, toList_yearFigures]

/-- The date in words has the month that is given. -/
theorem toList_inWords (civil : Civil) (month : String) :
    (civil.date.inWords month).toList = civil.worded month.toList := by
  simp [Date.inWords, Civil.worded, toString, digits, toList_yearFigures]

end Texts

namespace Instant

variable {instant : Instant} {civil : Civil}

/-- The short time in UTC: `Feb 20, 2025 12:00`. -/
theorem Shows.displayText_eq (shown : instant.Shows 0 civil) (regular : instant.Regular) :
    instant.displayText = s!"{civil.date.inWords (shortMonth civil.date.month)} " ++
      s!"{figures 2 civil.hour}:{figures 2 civil.minute}" := by
  obtain rfl := regular.shows_iff.1 shown
  apply String.toList_inj.1
  simp [displayText, toList_inWords, toList_figures, Civil.minuteText,
    take_monthName (Date.month_of_exists? shown.date_exists), toString]

/-- The date in UTC: `2025-02-20`. -/
theorem Shows.dateText_eq (shown : instant.Shows 0 civil) (regular : instant.Regular) :
    instant.dateText = civil.date.inFigures := by
  obtain rfl := regular.shows_iff.1 shown
  rw [dateText, ← toList_inFigures, String.ofList_toList]

/-- The long time in UTC: `February 20, 2025 12:00:00`. -/
theorem Shows.longText_eq (shown : instant.Shows 0 civil) (regular : instant.Regular) :
    instant.longText = s!"{civil.date.inWords (monthInWords civil.date.month)} " ++
      s!"{figures 2 civil.hour}:{figures 2 civil.minute}:{figures 2 civil.second}" := by
  obtain rfl := regular.shows_iff.1 shown
  apply String.toList_inj.1
  simp [longText, toList_inWords, toList_figures, Civil.minuteText, Civil.secondText,
    monthName_eq (Date.month_of_exists? shown.date_exists), toString]

/-- The time in Shanghai: `2025-02-20 20:00:00`. -/
theorem Shows.shanghaiText_eq (shown : instant.Shows 28800 civil) (regular : instant.Regular) :
    instant.shanghaiText = s!"{civil.date.inFigures} " ++
      s!"{figures 2 civil.hour}:{figures 2 civil.minute}:{figures 2 civil.second}" := by
  obtain rfl := regular.shows_iff.1 shown
  apply String.toList_inj.1
  simp [shanghaiText, shanghaiOffset, toList_inFigures, toList_figures, Civil.minuteText,
    Civil.secondText, toString]

end Instant

end PredictionMarket.Calendar
