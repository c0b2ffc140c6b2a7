import PredictionMarket.Proofs.Calendar.Grammar

/-!
# What the loose layouts read

A moment is what a text says: a date and, if the text goes on, a time of day, of which the
offset from UTC may be left out. The loose layouts are taken apart field by field: behind the
date they read a time of day of hours and minutes, with or without seconds and with or without
an offset, exactly where one is spelt.
-/

namespace PredictionMarket.Calendar

open Text (trimStart)

/-- A time of day as a text says it. -/
structure TimeOfDay where
  hour : Nat
  minute : Nat
  second : Nat
  nanos : Nat
  /-- Seconds by which the time is ahead of UTC, if the text says so. -/
  offset : Option Int

/-- What a text says: a date, and perhaps a time of day. -/
structure Moment where
  date : Date
  time : Option TimeOfDay

/-- The time of day on a date, in UTC where no offset is stated. -/
def TimeOfDay.reading (time : TimeOfDay) (date : Date) : Reading where
  year := date.year
  month := date.month
  day := date.day
  hour := time.hour
  minute := time.minute
  second := time.second
  nanos := time.nanos
  offset := time.offset.getD 0

/-- A moment as fields say it; a bare date stands for its first second. -/
def Moment.reading (moment : Moment) : Reading :=
  match moment.time with
  | none => .ofDate moment.date
  | some time => time.reading moment.date

section Relations

/-- What is taken off a text as a date. -/
def TakesDate (date : Date) (text rest : List Char) : Prop :=
  ∃ behindYear behindMonth, TakesNumber .year date.year text ('-' :: behindYear) ∧
    TakesNumber .month date.month behindYear ('-' :: behindMonth) ∧
    TakesNumber .day date.day behindMonth rest

/-- What may stand at the end of a text behind the figures of a time of day. -/
def SpellsZone : Option Int → List Char → Prop
  | none, text => text = []
  | some offset, text => SpellsOffset offset text

/-- Hours and minutes, and an offset or none. -/
def SpellsMinutes (time : TimeOfDay) (text : List Char) : Prop :=
  ∃ behindHour rest, TakesNumber .hour time.hour text (':' :: behindHour) ∧
    TakesNumber .minute time.minute behindHour rest ∧ time.second = 0 ∧ time.nanos = 0 ∧
    SpellsZone time.offset rest

/-- Hours, minutes and seconds, a fraction or none, and an offset or none. -/
def SpellsSeconds (time : TimeOfDay) (text : List Char) : Prop :=
  ∃ behindHour behindMinute behindSecond rest,
    TakesNumber .hour time.hour text (':' :: behindHour) ∧
    TakesNumber .minute time.minute behindHour (':' :: behindMinute) ∧
    TakesNumber .second time.second behindMinute behindSecond ∧
    TakesFraction time.nanos behindSecond rest ∧ SpellsZone time.offset rest

/-- A time of day up to the end of a text. -/
def SpellsTime (time : TimeOfDay) (text : List Char) : Prop :=
  SpellsMinutes time text ∨ SpellsSeconds time text

end Relations

section Fields

variable {reading after : Reading} {layout : Layout} {text : List Char}

/-- No fields are read from nothing alone. -/
theorem readFrom?_nil_iff : Layout.readFrom? reading [] text = some after ↔
    text = [] ∧ reading = after := by
  cases text <;> simp [Layout.readFrom?]

/-- The first field is read, and the others from what it leaves. -/
theorem readFrom?_cons_iff {field : Field} :
    Layout.readFrom? reading (field :: layout) text = some after ↔
      ∃ next rest, field.read? reading text = some (next, rest) ∧
        layout.readFrom? next rest = some after := by
  rw [Layout.readFrom?]
  constructor
  · intro read
    split at read
    · next next rest one => exact ⟨next, rest, one, read⟩
    · cases read
  · rintro ⟨next, rest, one, read⟩
    rw [one]
    exact read

/-- A mark is read where it stands. -/
theorem readFrom?_mark_iff {c : Char} :
    Layout.readFrom? reading (.mark c :: layout) text = some after ↔
      ∃ rest, text = c :: rest ∧ layout.readFrom? reading rest = some after := by
  rw [readFrom?_cons_iff]
  constructor
  · rintro ⟨next, rest, one, read⟩
    simp only [Field.read?] at one
    split at one
    · split at one <;> cases one
      subst ‹_ = c›
      exact ⟨rest, rfl, read⟩
    · cases one
  · rintro ⟨rest, rfl, read⟩
    exact ⟨reading, rest, by simp [Field.read?], read⟩

/-- Blanks are passed over. -/
theorem readFrom?_blanks_iff :
    Layout.readFrom? reading (.blanks :: layout) text = some after ↔
      layout.readFrom? reading (trimStart text) = some after := by
  simp [readFrom?_cons_iff, Field.read?]

/-- A loose number is taken off. -/
theorem readFrom?_loose_iff {part : Part} :
    Layout.readFrom? reading (.loose part :: layout) text = some after ↔
      ∃ value rest, TakesNumber part value text rest ∧
        layout.readFrom? (reading.set part value) rest = some after := by
  simp only [readFrom?_cons_iff, Field.read?, Option.map_eq_some_iff, Prod.exists, Prod.mk.injEq,
    looseNumber?_eq_some_iff]
  constructor
  · rintro ⟨_, _, ⟨value, _, number, rfl, rfl⟩, read⟩
    exact ⟨value, _, number, read⟩
  · rintro ⟨value, rest, number, read⟩
    exact ⟨_, rest, ⟨value, rest, number, rfl, rfl⟩, read⟩

/-- A fraction is taken off. -/
theorem readFrom?_fraction_iff :
    Layout.readFrom? reading (.fraction :: layout) text = some after ↔
      ∃ nanos rest, TakesFraction nanos text rest ∧
        layout.readFrom? { reading with nanos } rest = some after := by
  simp only [readFrom?_cons_iff, Field.read?, Option.map_eq_some_iff, Prod.exists, Prod.mk.injEq,
    fraction?_eq_some_iff]
  constructor
  · rintro ⟨_, _, ⟨nanos, _, fraction, rfl, rfl⟩, read⟩
    exact ⟨nanos, _, fraction, read⟩
  · rintro ⟨nanos, rest, fraction, read⟩
    exact ⟨_, rest, ⟨nanos, rest, fraction, rfl, rfl⟩, read⟩

/-- An offset ends the text, where one is read. -/
theorem readFrom?_zone_iff {offset : Bool} :
    Layout.readFrom? reading (if offset then [.looseOffset] else []) text = some after ↔
      ∃ zone, SpellsZone zone text ∧ zone.isSome = offset ∧
        { reading with offset := zone.getD reading.offset } = after := by
  cases offset with
  | false =>
    simp only [Bool.false_eq_true, if_false, readFrom?_nil_iff]
    constructor
    · rintro ⟨rfl, rfl⟩
      exact ⟨none, rfl, rfl, rfl⟩
    · rintro ⟨_ | offset, spelt, stated, rfl⟩
      · exact ⟨spelt, rfl⟩
      · cases stated
  | true =>
    simp only [if_true, readFrom?_cons_iff, Field.read?, Option.map_eq_some_iff, Prod.exists,
      Prod.mk.injEq, readFrom?_nil_iff]
    constructor
    · rintro ⟨-, -, ⟨offset, -, read, rfl, rfl⟩, rfl, rfl⟩
      exact ⟨some offset, looseOffset?_eq_some_iff.1 read, rfl, rfl⟩
    · rintro ⟨_ | offset, spelt, stated, rfl⟩
      · cases stated
      · exact ⟨_, [], ⟨offset, [], looseOffset?_eq_some_iff.2 spelt, rfl, rfl⟩, rfl, rfl⟩

end Fields

section Loose

variable {after : Reading} {layout : Layout} {text : List Char}

/-- The loose layouts begin with a date. -/
theorem readFrom?_date_iff :
    Layout.readFrom? .blank (Layout.date .loose ++ layout) text = some after ↔
      ∃ date rest, TakesDate date text rest ∧
        layout.readFrom? (.ofDate date) rest = some after := by
  simp only [Layout.date, List.cons_append, List.nil_append, readFrom?_loose_iff,
    readFrom?_mark_iff]
  constructor
  · rintro ⟨year, -, isYear, behindYear, rfl, month, -, isMonth, behindMonth, rfl, day, rest,
      isDay, read⟩
    refine ⟨⟨year, month.toNat, day.toNat⟩, rest, ⟨behindYear, behindMonth, isYear, ?_, ?_⟩, read⟩
    · rwa [isMonth.toNat (by decide)]
    · rwa [isDay.toNat (by decide)]
  · rintro ⟨date, rest, ⟨behindYear, behindMonth, isYear, isMonth, isDay⟩, read⟩
    exact ⟨_, _, isYear, _, rfl, _, _, isMonth, _, rfl, _, rest, isDay, read⟩

/-- The fields of a time of day, with seconds or without, and with an offset or without. -/
def clockFields (seconds offset : Bool) : Layout :=
  (if seconds then Layout.hourMinuteSecond .loose ++ [.fraction] else Layout.hourMinute .loose) ++
    if offset then [.looseOffset] else []

/-- Hours and minutes are read where they are spelt. -/
theorem readFrom?_minutes_iff {date : Date} {offset : Bool} :
    Layout.readFrom? (.ofDate date) (clockFields false offset) text = some after ↔
      ∃ time, SpellsMinutes time text ∧ time.offset.isSome = offset ∧
        time.reading date = after := by
  simp only [clockFields, Layout.hourMinute, Bool.false_eq_true, if_false, List.cons_append,
    List.nil_append, readFrom?_loose_iff, readFrom?_mark_iff, readFrom?_zone_iff]
  constructor
  · rintro ⟨hour, -, isHour, behindHour, rfl, minute, rest, isMinute, zone, spelt, stated, rfl⟩
    refine ⟨⟨hour.toNat, minute.toNat, 0, 0, zone⟩, ⟨behindHour, rest, ?_, ?_, rfl, rfl, spelt⟩,
      stated, rfl⟩
    · rwa [isHour.toNat (by decide)]
    · rwa [isMinute.toNat (by decide)]
  · rintro ⟨⟨hour, minute, -, -, zone⟩, ⟨behindHour, rest, isHour, isMinute, rfl, rfl, spelt⟩,
      stated, rfl⟩
    exact ⟨_, _, isHour, behindHour, rfl, _, rest, isMinute, zone, spelt, stated, rfl⟩

/-- Seconds are read where they are spelt. -/
theorem readFrom?_seconds_iff {date : Date} {offset : Bool} :
    Layout.readFrom? (.ofDate date) (clockFields true offset) text = some after ↔
      ∃ time, SpellsSeconds time text ∧ time.offset.isSome = offset ∧
        time.reading date = after := by
  simp only [clockFields, Layout.hourMinuteSecond, Layout.hourMinute, if_true, List.cons_append,
    List.nil_append, readFrom?_loose_iff, readFrom?_mark_iff, readFrom?_fraction_iff,
    readFrom?_zone_iff]
  constructor
  · rintro ⟨hour, -, isHour, behindHour, rfl, minute, -, isMinute, behindMinute, rfl, second,
      behindSecond, isSecond, nanos, rest, fraction, zone, spelt, stated, rfl⟩
    refine ⟨⟨hour.toNat, minute.toNat, second.toNat, nanos, zone⟩,
      ⟨behindHour, behindMinute, behindSecond, rest, ?_, ?_, ?_, fraction, spelt⟩, stated, rfl⟩
    · rwa [isHour.toNat (by decide)]
    · rwa [isMinute.toNat (by decide)]
    · rwa [isSecond.toNat (by decide)]
  · rintro ⟨⟨hour, minute, second, nanos, zone⟩, ⟨behindHour, behindMinute, behindSecond, rest,
      isHour, isMinute, isSecond, fraction, spelt⟩, stated, rfl⟩
    exact ⟨_, _, isHour, behindHour, rfl, _, _, isMinute, behindMinute, rfl, _, behindSecond,
      isSecond, nanos, rest, fraction, zone, spelt, stated, rfl⟩

/-- The layouts without a fraction read no more than those with one. -/
theorem readFrom?_fraction_of_end {reading : Reading} (whole : reading.nanos = 0)
    (read : Layout.readFrom? reading (Layout.hourMinuteSecond .loose) text = some after) :
    Layout.readFrom? reading (Layout.hourMinuteSecond .loose ++ [.fraction]) text =
      some after := by
  simp only [Layout.hourMinuteSecond, Layout.hourMinute, List.cons_append, List.nil_append,
    readFrom?_loose_iff, readFrom?_mark_iff, readFrom?_fraction_iff, readFrom?_nil_iff] at read ⊢
  obtain ⟨hour, behindHour, isHour, divided, rfl, minute, behindMinute, isMinute, again, rfl,
    second, -, isSecond, rfl, rfl⟩ := read
  refine ⟨hour, _, isHour, divided, rfl, minute, _, isMinute, again, rfl, second, _, isSecond, 0,
    [], .absent (by simp) rfl rfl, rfl, ?_⟩
  rw [← whole]
  rfl

end Loose

end PredictionMarket.Calendar
