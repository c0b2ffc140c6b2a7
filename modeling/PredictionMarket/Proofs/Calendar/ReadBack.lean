import PredictionMarket.Calendar.Display
import PredictionMarket.Proofs.Calendar.Regular
import PredictionMarket.Proofs.Text.Trimming

/-!
# Reading written instants

The texts of dates and times of day are read as what was written. A year of four digits is
read by fields of full width and by looser ones; a year with a sign is read by the looser
ones alone, so RFC 3339 does not have it and a later layout takes over. So the date in UTC
is read as the first second of its day, and the second in Shanghai, with the offset of
Shanghai behind it, as the instant that was written.
-/

namespace PredictionMarket.Calendar

open Decimal (AllDigits paddedDigits allDigits_paddedDigits length_paddedDigits
  valueOf_paddedDigits le_length_paddedDigits exists_paddedDigits_cons)
open Text (isBlank isBlank_of_isDigit trimStart trimStart_cons)

section Numbers

variable {shown rest : List Char} {width : Nat}

/-- Digits of exactly the width are split off whatever follows. -/
theorem exactDigits?_append (digits : AllDigits shown) (length : shown.length = width) :
    exactDigits? width (shown ++ rest) = some (Decimal.valueOf shown, rest) := by
  have kept : shown.takeWhile Char.isDigit = shown := List.takeWhile_eq_self_iff.2 digits
  simp [exactDigits?, ← length, kept]

/-- Digits of at most a width are split off at the width whatever follows. -/
theorem digits?_append (digits : AllDigits shown) (length : shown.length = width)
    (wide : 0 < width) : digits? width (shown ++ rest) = some (Decimal.valueOf shown, rest) := by
  have kept : shown.takeWhile Char.isDigit = shown := List.takeWhile_eq_self_iff.2 digits
  have present : shown ≠ [] := List.ne_nil_of_length_pos (length ▸ wide)
  simp [digits?, ← length, kept, present]

/-- Any number of digits is split off up to what is no digit. -/
theorem digits?_all (digits : AllDigits shown) (present : shown ≠ [])
    (ends : ∀ c ∈ rest.head?, c.isDigit = false) :
    digits? (shown ++ rest).length (shown ++ rest) = some (Decimal.valueOf shown, rest) := by
  rw [digits?, List.take_length, digits.takeWhile_append ends]
  simp [present]

end Numbers

section Fields

variable {number : Part → Field} {reading : Reading} {rest : List Char}

/-- A part has room for a digit. -/
theorem Part.width_pos (part : Part) : 0 < part.width := by cases part <;> decide

/-- A loose number that begins with a digit is read as digits. -/
theorem looseNumber?_of_digit {part : Part} {c : Char} {text : List Char}
    (digit : c.isDigit = true) :
    looseNumber? part (c :: text) =
      (digits? part.width (c :: text)).map fun (value, rest) => ((value : Int), rest) := by
  have notMinus : c ≠ '-' := by
    rintro rfl
    cases digit
  have notPlus : c ≠ '+' := by
    rintro rfl
    cases digit
  simp only [looseNumber?, trimStart_cons (isBlank_of_isDigit digit)]
  split
  · next same => exact absurd (List.cons.inj same).1 notMinus
  · next same => exact absurd (List.cons.inj same).1 notPlus
  · rfl

/-- A padded number is read by fields of both kinds. -/
theorem read?_paddedDigits (kind : number = .exact ∨ number = .loose) (part : Part) {n : Nat}
    (fits : n < 10 ^ part.width) (reading : Reading) (rest : List Char) :
    (number part).read? reading (paddedDigits part.width n ++ rest) =
      some (reading.set part n, rest) := by
  have digits := allDigits_paddedDigits part.width n
  have length := length_paddedDigits part.width_pos fits
  rcases kind with rfl | rfl
  · simp only [Field.read?, exactDigits?_append digits length, valueOf_paddedDigits,
      Option.map_some]
  · obtain ⟨c, more, digit, shape⟩ := exists_paddedDigits_cons part.width_pos n
    have loose : looseNumber? part (paddedDigits part.width n ++ rest) =
        some ((n : Int), rest) := by
      rw [shape, List.cons_append, looseNumber?_of_digit digit, ← List.cons_append, ← shape,
        digits?_append digits length part.width_pos, valueOf_paddedDigits]
      rfl
    simp only [Field.read?, loose, Option.map_some]

/-- A year behind a sign is read up to the dash behind it. -/
theorem looseNumber?_signed (negative : Bool) (n : Nat) (rest : List Char) :
    looseNumber? .year
        ((if negative then '-' else '+') :: (paddedDigits 4 n ++ '-' :: rest)) =
      some (if negative then -(n : Int) else (n : Int), '-' :: rest) := by
  obtain ⟨c, more, -, shape⟩ := exists_paddedDigits_cons (by decide : 0 < 4) n
  have present : paddedDigits 4 n ≠ [] := shape ▸ List.cons_ne_nil c more
  have read : digits? (paddedDigits 4 n ++ '-' :: rest).length
      (paddedDigits 4 n ++ '-' :: rest) = some (n, '-' :: rest) := by
    rw [digits?_all (allDigits_paddedDigits 4 n) present fun c first => by
      cases first
      rfl, valueOf_paddedDigits]
  have minus : isBlank '-' = false := rfl
  have plus : isBlank '+' = false := rfl
  cases negative with
  | true => simp only [looseNumber?, if_true, trimStart_cons minus, read, Option.map_some]
  | false =>
    simp only [looseNumber?, Bool.false_eq_true, if_false, trimStart_cons plus, read,
      Option.map_some]

/-- The text of a year is read by a loose field up to the dash behind it. -/
theorem read?_yearText (year : Int) :
    (Field.loose .year).read? reading (yearText year ++ '-' :: rest) =
      some (reading.set .year year, '-' :: rest) := by
  unfold yearText
  split
  · next plain =>
    have fits : year.toNat < 10 ^ Part.year.width := by
      have width : (10 : Nat) ^ Part.year.width = 10000 := rfl
      omega
    have value : (year.toNat : Int) = year := Int.toNat_of_nonneg plain.1
    have read := read?_paddedDigits (.inr rfl) .year fits reading ('-' :: rest)
    rwa [value] at read
  · have signed := looseNumber?_signed (decide (year < 0)) year.natAbs rest
    have value : (if decide (year < 0) then -(year.natAbs : Int) else year.natAbs) = year := by
      simp only [decide_eq_true_eq]
      split <;> omega
    rw [value] at signed
    simp only [decide_eq_true_eq] at signed
    rw [List.cons_append, Field.read?, signed]
    rfl

/-- The text of a year is read by a field of full width when it has four digits. -/
theorem read?_yearText_exact {year : Int} (plain : 0 ≤ year ∧ year ≤ 9999) :
    (Field.exact .year).read? reading (yearText year ++ rest) =
      some (reading.set .year year, rest) := by
  have fits : year.toNat < 10 ^ Part.year.width := by
    have width : (10 : Nat) ^ Part.year.width = 10000 := rfl
    omega
  have value : (year.toNat : Int) = year := Int.toNat_of_nonneg plain.1
  have read := read?_paddedDigits (.inl rfl) .year fits reading rest
  rw [yearText, if_pos plain]
  rwa [value] at read

/-- The text of any other year is not. -/
theorem read?_yearText_exact_signed {year : Int} (signed : ¬ (0 ≤ year ∧ year ≤ 9999)) :
    (Field.exact .year).read? reading (yearText year ++ rest) = none := by
  rw [yearText, if_neg signed]
  split <;> rfl

end Fields

section Layouts

variable {number : Part → Field} {reading after : Reading} {layout : Layout}
  {text rest : List Char} {civil : Civil}

/-- A field that is read leaves the other fields to read. -/
theorem readFrom?_cons {field : Field} (read : field.read? reading text = some (after, rest)) :
    Layout.readFrom? reading (field :: layout) text = Layout.readFrom? after layout rest := by
  rw [Layout.readFrom?, read]

/-- A field that cannot be read ends the reading. -/
theorem readFrom?_cons_of_none {field : Field} (fails : field.read? reading text = none) :
    Layout.readFrom? reading (field :: layout) text = none := by
  rw [Layout.readFrom?, fails]

/-- A mark is read where it stands. -/
theorem readFrom?_mark {c : Char} :
    Layout.readFrom? reading (.mark c :: layout) (c :: rest) =
      Layout.readFrom? reading layout rest :=
  readFrom?_cons (by simp [Field.read?])

/-- A number of two digits is read, and the fields behind it are left. -/
theorem readFrom?_twoDigits (kind : number = .exact ∨ number = .loose) {part : Part} {n : Nat}
    (narrow : part.width = 2) (fits : n < 100) :
    Layout.readFrom? reading (number part :: layout) (paddedDigits 2 n ++ rest) =
      Layout.readFrom? (reading.set part n) layout rest := by
  have fitsWidth : n < 10 ^ part.width := by
    rw [narrow]
    exact fits
  have read := read?_paddedDigits kind part fitsWidth reading rest
  rw [narrow] at read
  exact readFrom?_cons read

/-- What is said when a date was read. -/
def Reading.ofDate (date : Date) : Reading :=
  { Reading.blank with year := date.year, month := date.month, day := date.day }

/-- A month and a day are read behind a year. -/
theorem readFrom?_monthDay (kind : number = .exact ∨ number = .loose)
    (month : civil.date.month < 100) (day : civil.date.day < 100) :
    Layout.readFrom? (Reading.blank.set .year civil.date.year)
        (.mark '-' :: number .month :: .mark '-' :: number .day :: layout)
        ('-' :: paddedDigits 2 civil.date.month ++ '-' :: paddedDigits 2 civil.date.day ++ rest) =
      Layout.readFrom? (.ofDate civil.date) layout rest := by
  rw [List.append_assoc, List.cons_append, List.cons_append, readFrom?_mark,
    readFrom?_twoDigits kind rfl month, readFrom?_mark,
    readFrom?_twoDigits kind rfl day]
  rfl

/-- A date is read by loose fields. -/
theorem readFrom?_dateText (month : civil.date.month < 100) (day : civil.date.day < 100) :
    Layout.readFrom? .blank (Layout.date .loose ++ layout) (civil.dateText ++ rest) =
      Layout.readFrom? (.ofDate civil.date) layout rest := by
  rw [Civil.dateText, List.append_assoc, List.append_assoc, List.cons_append, Layout.date,
    List.cons_append, readFrom?_cons (read?_yearText civil.date.year), ← List.cons_append,
    ← List.append_assoc]
  exact readFrom?_monthDay (.inr rfl) month day

/-- A date is read by fields of full width when its year has four digits. -/
theorem readFrom?_dateText_exact (plain : 0 ≤ civil.date.year ∧ civil.date.year ≤ 9999)
    (month : civil.date.month < 100) (day : civil.date.day < 100) :
    Layout.readFrom? .blank (Layout.date .exact ++ layout) (civil.dateText ++ rest) =
      Layout.readFrom? (.ofDate civil.date) layout rest := by
  rw [Civil.dateText, List.append_assoc, List.append_assoc, Layout.date, List.cons_append,
    readFrom?_cons (read?_yearText_exact plain), ← List.append_assoc]
  exact readFrom?_monthDay (.inl rfl) month day

/-- Any other date is not read by fields of full width. -/
theorem readFrom?_dateText_signed (signed : ¬ (0 ≤ civil.date.year ∧ civil.date.year ≤ 9999)) :
    Layout.readFrom? .blank (Layout.date .exact ++ layout) (civil.dateText ++ rest) = none := by
  rw [Civil.dateText, List.append_assoc, List.append_assoc, Layout.date, List.cons_append]
  exact readFrom?_cons_of_none (read?_yearText_exact_signed signed)

/-- A time of day is read by fields of both kinds. -/
theorem readFrom?_secondText (kind : number = .exact ∨ number = .loose)
    (hour : civil.hour < 100) (minute : civil.minute < 100) (second : civil.second < 100) :
    Layout.readFrom? reading (Layout.hourMinuteSecond number ++ layout)
        (civil.secondText ++ rest) =
      Layout.readFrom?
        { reading with hour := civil.hour, minute := civil.minute, second := civil.second }
        layout rest := by
  simp only [Civil.secondText, Civil.minuteText, Layout.hourMinuteSecond, Layout.hourMinute,
    List.append_assoc, List.cons_append, List.nil_append]
  rw [readFrom?_twoDigits kind rfl hour, readFrom?_mark,
    readFrom?_twoDigits kind rfl minute, readFrom?_mark,
    readFrom?_twoDigits kind rfl second]
  rfl

end Layouts

section Texts

/-- What follows the date in RFC 3339. -/
def exactTime : Layout :=
  .divider :: (Layout.hourMinuteSecond .exact ++ [.fraction, .colonOffset])

/-- What follows the date in the other layouts, in the order in which they are tried. -/
def looseTimes : List Layout := [
  .mark 'T' :: (Layout.hourMinuteSecond .loose ++ [.fraction, .looseOffset]),
  .mark 'T' :: (Layout.hourMinute .loose ++ [.looseOffset]),
  .blanks :: (Layout.hourMinuteSecond .loose ++ [.fraction, .looseOffset]),
  .blanks :: (Layout.hourMinute .loose ++ [.looseOffset]),
  .mark 'T' :: (Layout.hourMinuteSecond .loose ++ [.fraction]),
  .mark 'T' :: Layout.hourMinuteSecond .loose,
  .mark 'T' :: Layout.hourMinute .loose,
  .blanks :: (Layout.hourMinuteSecond .loose ++ [.fraction]),
  .blanks :: Layout.hourMinuteSecond .loose,
  .blanks :: Layout.hourMinute .loose,
  []]

/-- Every layout begins with a date. -/
theorem Layout.all_eq :
    Layout.all = (Layout.date .exact ++ exactTime) ::
      looseTimes.map fun layout => Layout.date .loose ++ layout := rfl

variable {civil : Civil}

/-- A text that begins with a date is read by what follows the date. -/
theorem ofText?_dateText (month : civil.date.month < 100) (day : civil.date.day < 100)
    (rest : List Char) :
    Instant.ofText? (civil.dateText ++ rest) =
      ((if 0 ≤ civil.date.year ∧ civil.date.year ≤ 9999 then
          exactTime.readFrom? (.ofDate civil.date) rest
        else none).bind Reading.instant?).or
        (looseTimes.findSome? fun layout =>
          (layout.readFrom? (.ofDate civil.date) rest).bind Reading.instant?) := by
  have exactly : Layout.readFrom? .blank (Layout.date .exact ++ exactTime)
      (civil.dateText ++ rest) =
        if 0 ≤ civil.date.year ∧ civil.date.year ≤ 9999 then
          exactTime.readFrom? (.ofDate civil.date) rest
        else none := by
    split
    · next plain => exact readFrom?_dateText_exact plain month day
    · next signed => exact readFrom?_dateText_signed signed
  simp only [Instant.ofText?, Layout.all_eq, List.findSome?_cons, List.findSome?_map,
    Function.comp_def, Layout.read?, exactly, readFrom?_dateText month day]
  cases ((if 0 ≤ civil.date.year ∧ civil.date.year ≤ 9999 then
    exactTime.readFrom? (.ofDate civil.date) rest else none).bind Reading.instant?) <;> rfl

/-- A bare date is read as the reading of that date. -/
theorem ofText?_bareDate (month : civil.date.month < 100) (day : civil.date.day < 100) :
    Instant.ofText? civil.dateText = (Reading.ofDate civil.date).instant? := by
  have read := ofText?_dateText month day []
  rw [List.append_nil] at read
  rw [read]
  have noTime : exactTime.readFrom? (.ofDate civil.date) [] = none := rfl
  have parts : looseTimes = looseTimes.dropLast ++ [[]] := rfl
  have noLooseTime : ∀ layout ∈ looseTimes.dropLast,
      (layout.readFrom? (.ofDate civil.date) []).bind Reading.instant? = none := by
    intro layout member
    simp only [looseTimes, List.dropLast, List.mem_cons, List.not_mem_nil, or_false] at member
    rcases member with rfl | rfl | rfl | rfl | rfl | rfl | rfl | rfl | rfl | rfl <;> rfl
  rw [noTime, ite_self, Option.bind_none, Option.none_or, parts, List.findSome?_append,
    List.findSome?_eq_none_iff.2 noLooseTime, Option.none_or, List.findSome?_singleton]
  rfl

/-- What is said when a date, a time of day and an offset were read. -/
def Reading.ofCivil (civil : Civil) (offset : Int) : Reading :=
  { Reading.ofDate civil.date with
    hour := civil.hour, minute := civil.minute, second := civil.second, offset := offset }

/-- A second with the offset of Shanghai is read as a reading with that offset: in RFC 3339
when the year has four digits, and by loose fields otherwise. -/
theorem ofText?_secondText {instant : Instant} (month : civil.date.month < 100)
    (day : civil.date.day < 100) (hour : civil.hour < 100) (minute : civil.minute < 100)
    (second : civil.second < 100)
    (denoted : (Reading.ofCivil civil Instant.shanghaiOffset).instant? = some instant) :
    Instant.ofText? (civil.dateText ++ (' ' :: civil.secondText ++ "+08:00".toList)) =
      some instant := by
  have exactly : exactTime.readFrom? (.ofDate civil.date)
      (' ' :: civil.secondText ++ "+08:00".toList) =
        some (.ofCivil civil Instant.shanghaiOffset) := by
    rw [exactTime, List.cons_append, readFrom?_cons rfl,
      readFrom?_secondText (.inl rfl) hour minute second]
    rfl
  have loosely : Layout.readFrom? (.ofDate civil.date)
      (.blanks :: (Layout.hourMinuteSecond .loose ++ [.fraction, .looseOffset]))
      (' ' :: civil.secondText ++ "+08:00".toList) =
        some (.ofCivil civil Instant.shanghaiOffset) := by
    have blanks : (Field.blanks).read? (.ofDate civil.date)
        (' ' :: (civil.secondText ++ "+08:00".toList)) =
          some (.ofDate civil.date, civil.secondText ++ "+08:00".toList) := by
      have start : trimStart (' ' :: (civil.secondText ++ "+08:00".toList)) =
          civil.secondText ++ "+08:00".toList := by
        obtain ⟨c, more, digit, shape⟩ := exists_paddedDigits_cons Nat.two_pos civil.hour
        rw [Civil.secondText, Civil.minuteText, shape]
        exact (List.dropWhile_cons_of_pos rfl).trans (trimStart_cons (isBlank_of_isDigit digit) _)
      rw [Field.read?, start]
    rw [List.cons_append, readFrom?_cons blanks, readFrom?_secondText (.inr rfl) hour minute second]
    rfl
  rw [ofText?_dateText month day, exactly]
  by_cases plain : 0 ≤ civil.date.year ∧ civil.date.year ≤ 9999
  · rw [if_pos plain, Option.bind_some, denoted, Option.some_or]
  · rw [if_neg plain, Option.bind_none, Option.none_or, looseTimes]
    rw [List.findSome?_cons_of_isNone rfl, List.findSome?_cons_of_isNone rfl,
      List.findSome?_cons, loosely, Option.bind_some, denoted]

end Texts

section Clocks

variable {instant : Instant} {offset : Int}

/-- A clock counts the days of its own time. -/
theorem dayNumber_civil (instant : Instant) (offset : Int) :
    (instant.civil offset).date.dayNumber = (instant.seconds + offset) / secondsPerDay :=
  Date.dayNumber_ofDayNumber _

/-- A clock shows a time of day; second 60 is shown during a leap second alone. -/
theorem Instant.Regular.civil_le (regular : instant.Regular) (whole : offset % 60 = 0) :
    (instant.civil offset).hour ≤ 23 ∧ (instant.civil offset).minute ≤ 59 ∧
      if instant.inLeapSecond then (instant.civil offset).second = 60
      else (instant.civil offset).second =
        ((instant.seconds + offset) % secondsPerDay).toNat % 60 := by
  have nanosLt := regular.nanos_lt
  have ends := regular.minuteEnds
  simp only [Instant.inLeapSecond, decide_eq_true_eq] at ends ⊢
  simp only [Instant.civil, secondsPerDay] at nanosLt ends ⊢
  refine ⟨by omega, by omega, ?_⟩
  split
  · next leap =>
    have second : instant.nanos / nanosPerSecond = 1 := by
      unfold nanosPerSecond at nanosLt leap ⊢
      omega
    have minuteEnds := ends leap
    omega
  · next usual => rw [Nat.div_eq_of_lt (Nat.lt_of_not_le usual), Nat.add_zero]

/-- A clock that is not behind UTC shows a date of the calendar until the last year of the
calendar ends for it. -/
theorem Instant.Regular.inCalendar_civil (regular : instant.Regular) (ahead : 0 ≤ offset)
    (inYears : (instant.civil offset).date.year ≤ lastYear) :
    (instant.civil offset).date.inCalendar = true := by
  have notEarlier : instant.seconds / secondsPerDay ≤
      (instant.seconds + offset) / secondsPerDay :=
    Int.ediv_le_ediv (by decide) (by omega)
  have first : firstYear ≤ (instant.civil offset).date.year :=
    Date.firstYear_le_year (Int.le_trans (firstSecond_le_iff.1 regular.begun) notEarlier)
  have real : (instant.civil offset).date.exists? = true := Date.exists?_ofDayNumber _
  simp [Date.inCalendar, first, inYears, real]

/-- A clock in UTC shows a date of the calendar. -/
theorem Instant.Regular.inCalendar_utc (regular : instant.Regular) :
    (instant.civil 0).date.inCalendar = true := by
  refine regular.inCalendar_civil (by decide) (Date.year_le_lastYear ?_)
  rw [Int.add_zero]
  exact lt_endSecond_iff.1 regular.ended

/-- A date of the calendar and a time of day denote the second to which they add up; second
60 counts like the second before it. -/
theorem Reading.instant?_of_total {reading : Reading} {seconds : Int} {counted : Nat}
    (date : Date.inCalendar ⟨reading.year, reading.month, reading.day⟩ = true)
    (hour : reading.hour ≤ 23) (minute : reading.minute ≤ 59)
    (second : reading.second = counted ∧ counted ≤ 59 ∨ reading.second = 60 ∧ counted = 59)
    (total : Date.dayNumber ⟨reading.year, reading.month, reading.day⟩ * secondsPerDay +
      (reading.hour * 3600 + reading.minute * 60 + counted) - reading.offset = seconds)
    (inside : firstSecond ≤ seconds ∧ seconds < endSecond) :
    ∃ nanos, reading.instant? = some ⟨seconds, nanos⟩ := by
  have counts : (if reading.second = 60 then 59 else reading.second) = counted := by
    split <;> omega
  simp only [Reading.instant?, Option.ite_none_right_eq_some, counts, total]
  exact ⟨_, ⟨date, hour, minute, by omega⟩, Instant.inCalendar?_eq_some_iff.2 ⟨rfl, inside⟩⟩

/-- The date of a clock in UTC is read as the first second of its day. -/
theorem Instant.Regular.instant?_ofDate (regular : instant.Regular) :
    ∃ nanos, (Reading.ofDate (instant.civil 0).date).instant? =
      some ⟨instant.seconds - instant.seconds % secondsPerDay, nanos⟩ := by
  have sameDay : (instant.seconds - instant.seconds % secondsPerDay) / secondsPerDay =
      instant.seconds / secondsPerDay := by
    unfold secondsPerDay
    omega
  refine Reading.instant?_of_total regular.inCalendar_utc (Nat.zero_le 23) (Nat.zero_le 59)
    (.inl ⟨rfl, Nat.zero_le 59⟩) ?_ ⟨?_, ?_⟩
  · have day := dayNumber_civil instant 0
    simp only [Reading.ofDate, Reading.blank, secondsPerDay] at day ⊢
    rw [day]
    omega
  · rw [firstSecond_le_iff, sameDay]
    exact firstSecond_le_iff.1 regular.begun
  · rw [lt_endSecond_iff, sameDay]
    exact lt_endSecond_iff.1 regular.ended

/-- What a clock shows is read, with its offset, as an instant of the same second. -/
theorem Instant.Regular.instant?_ofCivil (regular : instant.Regular) (whole : offset % 60 = 0)
    (inside : (instant.civil offset).date.inCalendar = true) :
    ∃ nanos, (Reading.ofCivil (instant.civil offset) offset).instant? =
      some ⟨instant.seconds, nanos⟩ := by
  obtain ⟨hour, minute, second⟩ := regular.civil_le whole
  have ends := regular.minuteEnds
  have day := dayNumber_civil instant offset
  have figures : (instant.civil offset).hour =
      ((instant.seconds + offset) % secondsPerDay).toNat / 3600 ∧
      (instant.civil offset).minute =
        ((instant.seconds + offset) % secondsPerDay).toNat % 3600 / 60 := ⟨rfl, rfl⟩
  have counted : (instant.civil offset).second =
        ((instant.seconds + offset) % secondsPerDay).toNat % 60 ∧
        ((instant.seconds + offset) % secondsPerDay).toNat % 60 ≤ 59 ∨
      (instant.civil offset).second = 60 ∧
        ((instant.seconds + offset) % secondsPerDay).toNat % 60 = 59 := by
    unfold secondsPerDay at second ⊢
    split at second
    · next leap =>
      have minuteEnds := ends leap
      omega
    · omega
  refine Reading.instant?_of_total inside hour minute counted ?_
    ⟨regular.begun, regular.ended⟩
  simp only [Reading.ofCivil, Reading.ofDate] at day ⊢
  rw [day, figures.1, figures.2]
  unfold secondsPerDay
  omega

end Clocks

end PredictionMarket.Calendar
