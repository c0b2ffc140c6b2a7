import Mathlib.Data.List.Basic
import PredictionMarket.Proofs.Calendar.Accepted
import PredictionMarket.Proofs.Calendar.Counted
import PredictionMarket.Proofs.Text.Trimming

/-!
# What the spellings of full width denote

A spelling whose date and time of day exist denotes the second that counting gives: the days
since 1970-01-01, the time of day, and from these the offset is taken off. A spelling whose month,
day, hour, minute or second does not exist denotes nothing. White space around either is of no
account.
-/

namespace PredictionMarket.Calendar

open Text (AllBlank isBlank isBlank_of_isDigit)

section Ends

/-- Figures have no blanks. -/
theorem Figures.isBlank_eq_false {width : Nat} (figures : Figures width) :
    ∀ c ∈ figures.shown, isBlank c = false :=
  fun c member => isBlank_of_isDigit (figures.digits c member)

/-- An offset has no blanks. -/
theorem Zone.isBlank_eq_false (zone : Zone) : ∀ c ∈ zone.text, isBlank c = false := by
  cases zone with
  | unstated => exact fun c member => by cases member
  | utc small => cases small <;> simp [Zone.text, isBlank]
  | shift sign colon hours minutes =>
    simp only [Zone.text, List.forall_mem_cons, List.forall_mem_append]
    refine ⟨sign.isBlank_character, hours.isBlank_eq_false, ?_, minutes.isBlank_eq_false⟩
    cases colon <;> simp [isBlank]

/-- The seconds of a time of day have no blanks. -/
theorem Seconds.isBlank_eq_false (seconds : Seconds) : ∀ c ∈ seconds.text, isBlank c = false := by
  obtain ⟨second, _ | fraction⟩ := seconds <;>
    simp only [Seconds.text, fractionText, List.forall_mem_cons, List.forall_mem_append]
  · exact ⟨rfl, second.isBlank_eq_false, fun c member => by cases member⟩
  · exact ⟨rfl, second.isBlank_eq_false, rfl,
      fun c member => isBlank_of_isDigit (fraction.digits c member)⟩

/-- A time of day has no blanks behind its divider. -/
theorem Clock.isBlank_eq_false (clock : Clock) : ∀ c ∈ clock.figures, isBlank c = false := by
  simp only [Clock.figures, List.forall_mem_cons, List.forall_mem_append]
  refine ⟨clock.hour.isBlank_eq_false, rfl, clock.minute.isBlank_eq_false, ?_,
    clock.zone.isBlank_eq_false⟩
  unfold secondsText
  split
  · exact fun c member => by cases member
  · next seconds _ => exact seconds.isBlank_eq_false

/-- A spelling begins with a digit. -/
theorem Spelling.head?_text (spelling : Spelling) :
    ∃ c ∈ spelling.text.head?, isBlank c = false := by
  obtain ⟨c, more, digit, shape⟩ := spelling.year.exists_cons (by decide)
  exact ⟨c, by rw [text, shape]; rfl, isBlank_of_isDigit digit⟩

/-- A spelling ends with its date or with the figures of its time of day. -/
theorem Spelling.getLast?_text (spelling : Spelling) :
    ∃ c ∈ spelling.text.getLast?, isBlank c = false := by
  obtain ⟨front, behind, split, present, dense⟩ : ∃ front behind, spelling.text = front ++ behind ∧
      behind ≠ [] ∧ ∀ c ∈ behind, isBlank c = false := by
    obtain ⟨year, month, day, _ | clock⟩ := spelling
    · refine ⟨year.shown ++ '-' :: (month.shown ++ ['-']), day.shown, ?_, ?_, day.isBlank_eq_false⟩
      · simp [text]
      · exact List.ne_nil_of_length_pos (day.length.symm ▸ Nat.two_pos)
    · refine ⟨year.shown ++ '-' :: (month.shown ++ '-' :: (day.shown ++ [clock.divider.character])),
        clock.figures, ?_, ?_, clock.isBlank_eq_false⟩
      · simp [text]
      · simp [Clock.figures]
  refine ⟨behind.getLast present, ?_, dense _ (List.getLast_mem present)⟩
  rw [split, List.getLast?_append_of_ne_nil _ present, List.getLast?_eq_some_getLast present]
  rfl

/-- Trimming takes off the blanks around a spelling. -/
theorem Spelling.trim_text (spelling : Spelling) {lead trail : List Char}
    (leadBlank : AllBlank lead) (trailBlank : AllBlank trail) :
    Text.trim (lead ++ (spelling.text ++ trail)) = spelling.text :=
  Text.trim_append leadBlank trailBlank spelling.head?_text spelling.getLast?_text

end Ends

section Range

/-- Dates with a year of four figures lie around the epoch. -/
theorem Date.dayNumber_of_four_figures {date : Date} (real : date.exists? = true)
    (begun : 0 ≤ date.year) (ended : date.year < 10000) :
    -719528 ≤ date.dayNumber ∧ date.dayNumber < 2932897 := by
  have months := Date.month_of_exists? real
  have days : 1 ≤ date.day ∧ date.day ≤ 31 := by
    simp only [exists?, Bool.and_eq_true, decide_eq_true_eq] at real
    refine ⟨real.1, real.2.trans ?_⟩
    fun_cases daysInMonth date.year date.month <;> omega
  rw [dayNumber_eq_marchDay]
  simp only [marchDay, daysToEpoch]
  split <;> omega

/-- An offset is less than a day when its hours and minutes are. -/
theorem Zone.InDay.offset_lt {zone : Zone} (inDay : zone.InDay) :
    -secondsPerDay < zone.offset.getD 0 ∧ zone.offset.getD 0 < secondsPerDay := by
  cases zone with
  | unstated => exact ⟨by decide, by decide⟩
  | utc small => exact (by decide : -secondsPerDay < 0 ∧ 0 < secondsPerDay)
  | shift sign colon hours minutes =>
    obtain ⟨inDay, inHour⟩ := inDay
    simp only [Zone.offset, Option.getD_some, Sign.seconds, secondsPerDay]
    split <;> omega

/-- The date exists, and so does the time of day, without a leap second. -/
structure Moment.InRange (moment : Moment) : Prop where
  date : moment.date.exists? = true
  time : ∀ time ∈ moment.time, time.hour < 24 ∧ time.minute < 60 ∧ time.second < 60

/-- The month has no such day, or the day no such hour, minute or second. -/
def Moment.OutOfRange (moment : Moment) : Prop :=
  moment.date.exists? = false ∨
    ∃ time ∈ moment.time, 24 ≤ time.hour ∨ 60 ≤ time.minute ∨ 61 ≤ time.second

/-- The instant of a moment by counting days and seconds, in UTC where no offset is stated. -/
def Moment.instant (moment : Moment) : Instant :=
  match moment.time with
  | none => ⟨moment.date.countedDays * secondsPerDay, 0⟩
  | some time =>
    ⟨moment.date.countedDays * secondsPerDay +
      (time.hour * 3600 + time.minute * 60 + time.second) - time.offset.getD 0, time.nanos⟩

/-- A reading in range denotes the second that its date and its time of day make. -/
theorem Reading.instant?_of_inRange (reading : Reading)
    (real : Date.exists? ⟨reading.year, reading.month, reading.day⟩ = true)
    (years : 0 ≤ reading.year ∧ reading.year < 10000)
    (clock : reading.hour < 24 ∧ reading.minute < 60 ∧ reading.second < 60)
    (offset : -secondsPerDay < reading.offset ∧ reading.offset < secondsPerDay) :
    reading.instant? = some
      ⟨Date.countedDays ⟨reading.year, reading.month, reading.day⟩ * secondsPerDay +
        (reading.hour * 3600 + reading.minute * 60 + reading.second) - reading.offset,
          reading.nanos⟩ := by
  have around := Date.dayNumber_of_four_figures real years.1 years.2
  have noLeap : reading.second ≠ 60 := by omega
  have inCalendar : Date.inCalendar ⟨reading.year, reading.month, reading.day⟩ = true := by
    simp only [Date.inCalendar, real, Bool.and_true, Bool.and_eq_true, decide_eq_true_eq]
    unfold firstYear lastYear
    omega
  have bounds : firstSecond ≤ -719529 * secondsPerDay ∧ 2932899 * secondsPerDay ≤ endSecond := by
    decide
  unfold secondsPerDay at *
  rw [Reading.instant?, if_pos ⟨inCalendar, by omega, by omega, by omega⟩, if_neg noLeap,
    if_neg noLeap, Instant.inCalendar?_eq_some_iff,
    ← Date.dayNumber_eq_countedDays _ (Date.month_of_exists? real)]
  refine ⟨rfl, ?_, ?_⟩ <;> dsimp only <;> omega

/-- A moment in range is read as its instant. -/
theorem Moment.InRange.instant?_reading {moment : Moment} (inRange : moment.InRange)
    (years : 0 ≤ moment.date.year ∧ moment.date.year < 10000)
    (offset : ∀ time ∈ moment.time,
      -secondsPerDay < time.offset.getD 0 ∧ time.offset.getD 0 < secondsPerDay) :
    moment.reading.instant? = some moment.instant := by
  obtain ⟨date, _ | time⟩ := moment
  · simp only [Moment.reading, Moment.instant]
    have midnight := Reading.instant?_of_inRange (.ofDate date) inRange.date years
      (by decide : 0 < 24 ∧ 0 < 60 ∧ 0 < 60) (by decide : -secondsPerDay < 0 ∧ 0 < secondsPerDay)
    simpa [Reading.ofDate, Reading.blank] using midnight
  · exact Reading.instant?_of_inRange (time.reading date) inRange.date years
      (inRange.time time rfl) (offset time rfl)

/-- A moment out of range is read as no instant. -/
theorem Moment.OutOfRange.instant?_reading {moment : Moment} (outOfRange : moment.OutOfRange) :
    moment.reading.instant? = none := by
  refine if_neg fun inRange => ?_
  obtain ⟨inCalendar, hour, minute, second⟩ := inRange
  obtain ⟨date, time⟩ := moment
  rcases outOfRange with unreal | ⟨time, rfl, late⟩
  · have real : date.exists? = true := by
      cases time <;> exact (Bool.and_eq_true_iff.1 inCalendar).2
    rw [unreal] at real
    cases real
  · have clock : time.hour ≤ 23 ∧ time.minute ≤ 59 ∧ time.second ≤ 60 := ⟨hour, minute, second⟩
    omega

end Range

end PredictionMarket.Calendar

namespace PredictionMarket

open Calendar
open Text (AllBlank)

/-- A text is what its spelling says, with any blanks around it: it denotes the instant that is
counted out where the date and the time of day exist, and it is an error where they do not. -/
theorem full_spellings_denote_instants (spelling : Spelling) (readable : spelling.Readable)
    (lead trail : List Char) (leadBlank : AllBlank lead) (trailBlank : AllBlank trail)
    (text : String) (written : text.toList = lead ++ (spelling.text ++ trail)) :
    (spelling.moment.InRange →
      attestationInstant (some (.string text)) = .ok spelling.moment.instant) ∧
    (spelling.moment.OutOfRange →
      attestationInstant (some (.string text)) = .error (.notAnInstant text)) := by
  have trimmed : Text.trim text.toList = spelling.text := by
    rw [written, spelling.trim_text leadBlank trailBlank]
  refine ⟨fun inRange => ?_, fun outOfRange => ?_⟩
  · rw [attestationInstant_string_eq_ok_iff, trimmed, Instant.ofText?_eq_some_iff]
    refine ⟨_, readable.spells, inRange.instant?_reading ?_ ?_⟩
    · exact ⟨Int.natCast_nonneg _, Int.ofNat_lt.2 spelling.year.value_lt⟩
    · intro time given
      obtain ⟨clock, isClock, rfl⟩ := Option.map_eq_some_iff.1 given
      exact (readable.inDay clock isClock).offset_lt
  · rw [attestationInstant_string_eq_error_iff, trimmed, Option.eq_none_iff_forall_ne_some]
    refine ⟨fun instant found => ?_, rfl⟩
    obtain ⟨moment, spells, denotes⟩ := Instant.ofText?_eq_some_iff.1 found
    rw [spells.unique readable.spells, outOfRange.instant?_reading] at denotes
    cases denotes

/-- The leap day of a year. -/
def leapDay (year : Figures 4) (clock : Option Clock) : Spelling :=
  ⟨year, ⟨"02".toList, by decide, rfl⟩, ⟨"29".toList, by decide, rfl⟩, clock⟩

/-- A time of day behind a space, with ten digits of a fraction and an offset without a colon. -/
def clockBehindUtc : Clock where
  divider := .space
  hour := ⟨"00".toList, by decide, rfl⟩
  minute := ⟨"30".toList, by decide, rfl⟩
  seconds := some ⟨⟨"59".toList, by decide, rfl⟩, some ⟨"1234567899".toList, by decide, by decide⟩⟩
  zone := .shift .hyphen false ⟨"09".toList, by decide, rfl⟩ ⟨"30".toList, by decide, rfl⟩

/-- A time of a leap day with an offset behind UTC is accepted between blanks; the leap day that
2100 does not have is not. -/
theorem leap_days_are_counted :
    attestationInstant (some (.string "\u3000 2024-02-29 00:30:59.1234567899-0930\n")) =
        .ok ⟨1709200859, 123456789⟩ ∧
      attestationInstant (some (.string "2100-02-29")) = .error (.notAnInstant "2100-02-29") := by
  constructor
  · have denoted := (full_spellings_denote_instants
      (leapDay ⟨"2024".toList, by decide, rfl⟩ (some clockBehindUtc))
      ⟨by rintro _ ⟨⟩; exact (by decide : 9 ≤ 23 ∧ 30 ≤ 59), by rintro _ ⟨⟩ ⟨⟩⟩
      "\u3000 ".toList "\n".toList (by decide) (by decide)
      "\u3000 2024-02-29 00:30:59.1234567899-0930\n" rfl).1
      ⟨by decide, by rintro _ ⟨⟩; exact (by decide : 0 < 24 ∧ 30 < 60 ∧ 59 < 60)⟩
    rw [denoted]
    exact congrArg Except.ok (by decide +kernel)
  · exact (full_spellings_denote_instants (leapDay ⟨"2100".toList, by decide, rfl⟩ none)
      ⟨by rintro _ ⟨⟩, by rintro _ ⟨⟩⟩ [] [] (by decide) (by decide) "2100-02-29" rfl).2
      (.inl (by decide))

end PredictionMarket
