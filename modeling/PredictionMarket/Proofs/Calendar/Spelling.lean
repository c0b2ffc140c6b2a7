import PredictionMarket.Proofs.Calendar.Moment

/-!
# Spellings of full width

A spelling has four figures for the year and two for every other number, a dash or a colon
between them, one character between the date and the time of day, and an offset in hours and
minutes if it has one. RFC 3339 has exactly the spellings with seconds and with an offset that
is a letter or has a colon. Every spelling says one moment, which loose fields read as well.
-/

namespace PredictionMarket.Calendar

open Decimal (AllDigits)
open Text (AllBlank isBlank)

/-- What stands between the date and the time of day. -/
inductive Divider where
  | capital
  | small
  | space
deriving DecidableEq

/-- The character of a divider. -/
def Divider.character : Divider → Char
  | capital => 'T'
  | small => 't'
  | space => ' '

/-- An offset from UTC in hours and minutes, with a colon between them or without. -/
inductive Zone where
  | unstated
  | utc (small : Bool)
  | shift (sign : Sign) (colon : Bool) (hours minutes : Figures 2)

namespace Zone

/-- The text of an offset. -/
def text : Zone → List Char
  | unstated => []
  | utc small => [if small then 'z' else 'Z']
  | shift sign colon hours minutes =>
    sign.character :: (hours.shown ++ ((if colon then [':'] else []) ++ minutes.shown))

/-- The seconds of an offset that is stated. -/
def offset : Zone → Option Int
  | unstated => none
  | utc _ => some 0
  | shift sign _ hours minutes => some (sign.seconds hours.value minutes.value)

/-- An offset has fewer than 24 hours and fewer than 60 minutes. -/
def InDay : Zone → Prop
  | unstated | utc _ => True
  | shift _ _ hours minutes => hours.value ≤ 23 ∧ minutes.value ≤ 59

/-- RFC 3339 has a letter or a colon in every offset, and no offset of a day. -/
def IsRfc3339 : Zone → Prop
  | unstated => False
  | utc _ => True
  | shift _ colon hours minutes => colon = true ∧ hours.value ≤ 23 ∧ minutes.value ≤ 59

/-- RFC 3339 states every offset. -/
theorem IsRfc3339.exists_offset {zone : Zone} (strict : zone.IsRfc3339) :
    ∃ offset, zone.offset = some offset := by
  cases zone with
  | unstated => cases strict
  | utc small => exact ⟨0, rfl⟩
  | shift sign colon hours minutes => exact ⟨_, rfl⟩

/-- An offset of RFC 3339 is less than a day. -/
theorem IsRfc3339.inDay {zone : Zone} (strict : zone.IsRfc3339) : zone.InDay := by
  cases zone with
  | unstated => trivial
  | utc small => trivial
  | shift sign colon hours minutes => exact strict.2

/-- An offset does not begin with a digit, with a colon or with a point. -/
theorem head?_text {zone : Zone} {c : Char} (first : zone.text.head? = some c) :
    c.isDigit = false ∧ c ≠ ':' ∧ c ≠ '.' := by
  cases zone with
  | unstated => cases first
  | utc small => cases small <;> cases first <;> decide
  | shift sign colon hours minutes => cases sign <;> cases first <;> decide

/-- An offset of less than a day is spelt by its text. -/
theorem InDay.spellsZone {zone : Zone} (inDay : zone.InDay) :
    SpellsZone zone.offset zone.text := by
  have none : AllBlank [] := fun c member => by cases member
  cases zone with
  | unstated => rfl
  | utc small => exact .utc [] _ none (by cases small <;> simp) rfl rfl
  | shift sign colon hours minutes =>
    refine .minutes [] (if colon then [':'] else []) sign hours minutes none ?_ rfl inDay.1
      inDay.2 rfl
    cases colon <;> simp

end Zone

/-- The digits of a fraction of a second. -/
structure Fraction where
  figures : List Char
  digits : AllDigits figures
  present : figures ≠ []

/-- Seconds behind a colon, and a fraction behind a point. -/
structure Seconds where
  second : Figures 2
  fraction : Option Fraction

namespace Seconds

/-- The text of the fraction of seconds. -/
def fractionText (seconds : Seconds) : List Char :=
  match seconds.fraction with
  | none => []
  | some fraction => '.' :: fraction.figures

/-- The text of seconds. -/
def text (seconds : Seconds) : List Char := ':' :: (seconds.second.shown ++ seconds.fractionText)

/-- The nanoseconds of seconds. -/
def nanos (seconds : Seconds) : Nat :=
  match seconds.fraction with
  | none => 0
  | some fraction => fractionNanos fraction.figures

/-- The fraction is what is taken off behind the figures of the second. -/
theorem takesFraction (seconds : Seconds) (zone : Zone) :
    TakesFraction seconds.nanos (seconds.fractionText ++ zone.text) zone.text := by
  obtain ⟨second, _ | fraction⟩ := seconds
  · exact .absent (fun point => (Zone.head?_text point).2.2 rfl) rfl rfl
  · exact .present fraction.figures
      ⟨fraction.digits, fraction.present, fun c first => (Zone.head?_text first).1⟩ rfl rfl

end Seconds

/-- A time of day behind its divider. -/
structure Clock where
  divider : Divider
  hour : Figures 2
  minute : Figures 2
  seconds : Option Seconds
  zone : Zone

namespace Clock

/-- The text of the seconds, if there are any. -/
def secondsText (clock : Clock) : List Char :=
  match clock.seconds with
  | none => []
  | some seconds => seconds.text

/-- The text of a time of day behind its divider. -/
def figures (clock : Clock) : List Char :=
  clock.hour.shown ++ ':' :: (clock.minute.shown ++ (clock.secondsText ++ clock.zone.text))

/-- What a clock says. -/
def time (clock : Clock) : TimeOfDay where
  hour := clock.hour.value
  minute := clock.minute.value
  second := match clock.seconds with
    | none => 0
    | some seconds => seconds.second.value
  nanos := match clock.seconds with
    | none => 0
    | some seconds => seconds.nanos
  offset := clock.zone.offset

/-- A clock with an offset of less than a day spells its time of day. -/
theorem spellsTime (clock : Clock) (inDay : clock.zone.InDay) :
    SpellsTime clock.time clock.figures := by
  obtain ⟨divider, hour, minute, _ | seconds, zone⟩ := clock
  · exact .inl ⟨minute.shown ++ zone.text, zone.text, hour.takesNumber .hour _,
      minute.takesNumber .minute _, rfl, rfl, inDay.spellsZone⟩
  · have second := seconds.second.takesNumber .second (seconds.fractionText ++ zone.text)
    rw [← List.append_assoc] at second
    exact .inr ⟨_, _, seconds.fractionText ++ zone.text, zone.text, hour.takesNumber .hour _,
      minute.takesNumber .minute _, second, seconds.takesFraction zone, inDay.spellsZone⟩

end Clock

/-- A date of full width, and perhaps a time of day. -/
structure Spelling where
  year : Figures 4
  month : Figures 2
  day : Figures 2
  clock : Option Clock

namespace Spelling

/-- The text of a spelling. -/
def text (spelling : Spelling) : List Char :=
  spelling.year.shown ++ '-' :: (spelling.month.shown ++ '-' :: (spelling.day.shown ++
    match spelling.clock with
    | none => []
    | some clock => clock.divider.character :: clock.figures))

/-- The date of a spelling. -/
def date (spelling : Spelling) : Date :=
  ⟨spelling.year.value, spelling.month.value, spelling.day.value⟩

/-- What a spelling says. -/
def moment (spelling : Spelling) : Moment := ⟨spelling.date, spelling.clock.map Clock.time⟩

/-- A spelling of RFC 3339 has seconds and an offset. -/
def IsRfc3339 (spelling : Spelling) : Prop :=
  ∃ clock, spelling.clock = some clock ∧ clock.seconds.isSome ∧ clock.zone.IsRfc3339

end Spelling

section Rfc3339

variable {reading after : Reading} {layout : Layout} {text : List Char}

/-- A number of full width is taken off. -/
theorem readFrom?_exact_iff {part : Part} :
    Layout.readFrom? reading (.exact part :: layout) text = some after ↔
      ∃ (figures : Figures part.width) (rest : List Char), text = figures.shown ++ rest ∧
        layout.readFrom? (reading.set part figures.value) rest = some after := by
  simp only [readFrom?_cons_iff, Field.read?, Option.map_eq_some_iff, Prod.exists, Prod.mk.injEq,
    exactDigits?_eq_some_iff]
  constructor
  · rintro ⟨_, rest, ⟨_, _, ⟨figures, rfl, rfl⟩, rfl, rfl⟩, read⟩
    exact ⟨figures, _, rfl, read⟩
  · rintro ⟨figures, rest, rfl, read⟩
    exact ⟨_, rest, ⟨_, rest, ⟨figures, rfl, rfl⟩, rfl, rfl⟩, read⟩

/-- A divider is read where it stands. -/
theorem readFrom?_divider_iff :
    Layout.readFrom? reading (.divider :: layout) text = some after ↔
      ∃ (divider : Divider) (rest : List Char), text = divider.character :: rest ∧
        layout.readFrom? reading rest = some after := by
  rw [readFrom?_cons_iff]
  constructor
  · rintro ⟨next, rest, one, read⟩
    simp only [Field.read?] at one
    split at one
    · split at one
      · next isDivider =>
        cases one
        rcases isDivider with rfl | rfl | rfl
        · exact ⟨.capital, rest, rfl, read⟩
        · exact ⟨.small, rest, rfl, read⟩
        · exact ⟨.space, rest, rfl, read⟩
      · cases one
    · cases one
  · rintro ⟨divider, rest, rfl, read⟩
    exact ⟨reading, rest, by cases divider <;> rfl, read⟩

/-- Behind a sign an offset with a colon goes on with the digits of the hours. -/
theorem colonOffset?_sign (sign : Sign) (rest : List Char) :
    colonOffset? (sign.character :: rest) = (do
      let (hours, rest) ← exactDigits? 2 rest
      match rest with
      | ':' :: rest =>
        let (minutes, rest) ← exactDigits? 2 rest
        let seconds ← offsetSeconds? sign.behind hours minutes
        return (seconds, rest)
      | _ => none) := by
  cases sign <;> rfl

/-- An offset with a colon is read where one is spelt. -/
theorem colonOffset?_eq_some_iff {offset : Int} :
    colonOffset? text = some (offset, []) ↔
      ∃ zone : Zone, zone.IsRfc3339 ∧ text = zone.text ∧ zone.offset = some offset := by
  constructor
  · intro read
    unfold colonOffset? at read
    split at read
    · cases read
      exact ⟨.utc false, trivial, rfl, rfl⟩
    · cases read
      exact ⟨.utc true, trivial, rfl, rfl⟩
    · simp only [Option.bind_eq_bind, Option.bind_eq_some_iff] at read
      obtain ⟨⟨behind, signed⟩, isSign, ⟨count, divided⟩, isHours, read⟩ := read
      obtain ⟨sign, rfl, rfl⟩ := offsetSign?_eq_some_iff.1 isSign
      obtain ⟨hours, rfl, rfl⟩ := exactDigits?_eq_some_iff.1 isHours
      split at read
      · next divided colon =>
        simp only [Option.bind_eq_some_iff] at read
        obtain ⟨⟨count, left⟩, isMinutes, seconds, isOffset, same⟩ := read
        cases same
        obtain ⟨minutes, rfl, rfl⟩ := exactDigits?_eq_some_iff.1 isMinutes
        obtain ⟨inDay, inHour, rfl⟩ := offsetSeconds?_eq_some_iff.1 isOffset
        refine ⟨.shift sign true hours minutes, ⟨rfl, inDay, inHour⟩, ?_, rfl⟩
        rw [List.append_nil] at colon
        exact congrArg (fun rest => sign.character :: (hours.shown ++ rest)) colon
      · cases read
  · rintro ⟨zone, strict, rfl, stated⟩
    cases zone with
    | unstated => cases strict
    | utc small =>
      cases stated
      cases small <;> rfl
    | shift sign colon hours minutes =>
      cases stated
      obtain ⟨isColon, inDay, inHour⟩ := strict
      have isHours := exactDigits?_eq_some_iff.2
        ⟨hours, Eq.refl (hours.shown ++ ':' :: minutes.shown), rfl⟩
      have isMinutes := exactDigits?_eq_some_iff.2
        ⟨minutes, (List.append_nil minutes.shown).symm, rfl⟩
      have seconds := offsetSeconds?_eq_some_iff.2
        ⟨inDay, inHour, Eq.refl (sign.seconds hours.value minutes.value)⟩
      simp only [Zone.text, isColon, if_true, List.cons_append, List.nil_append, colonOffset?_sign,
        isHours, Option.bind_eq_bind, Option.bind_some, isMinutes, seconds]
      rfl

/-- An offset with a colon ends the text. -/
theorem readFrom?_colonOffset_iff :
    Layout.readFrom? reading [.colonOffset] text = some after ↔
      ∃ zone : Zone, zone.IsRfc3339 ∧ text = zone.text ∧
        { reading with offset := zone.offset.getD 0 } = after := by
  simp only [readFrom?_cons_iff, Field.read?, Option.map_eq_some_iff, Prod.exists,
    Prod.mk.injEq, readFrom?_nil_iff]
  constructor
  · rintro ⟨_, _, ⟨offset, _, read, rfl, rfl⟩, rfl, rfl⟩
    obtain ⟨zone, strict, rfl, stated⟩ := colonOffset?_eq_some_iff.1 read
    exact ⟨zone, strict, rfl, by rw [stated]; rfl⟩
  · rintro ⟨zone, strict, rfl, rfl⟩
    obtain ⟨offset, stated⟩ := strict.exists_offset
    refine ⟨_, [], ⟨offset, [], colonOffset?_eq_some_iff.2 ⟨zone, strict, rfl, stated⟩, rfl, rfl⟩,
      rfl, ?_⟩
    rw [stated]
    rfl

/-- RFC 3339 reads exactly its spellings. -/
theorem readFrom?_rfc3339_iff :
    Layout.rfc3339.readFrom? .blank text = some after ↔
      ∃ spelling : Spelling, spelling.IsRfc3339 ∧ text = spelling.text ∧
        spelling.moment.reading = after := by
  simp only [Layout.rfc3339, Layout.date, Layout.hourMinuteSecond, Layout.hourMinute,
    List.cons_append, List.nil_append, readFrom?_exact_iff, readFrom?_mark_iff,
    readFrom?_divider_iff, readFrom?_fraction_iff, readFrom?_colonOffset_iff]
  constructor
  · rintro ⟨year, _, rfl, _, rfl, month, _, rfl, _, rfl, day, _, rfl, divider, _, rfl, hour, _,
      rfl, _, rfl, minute, _, rfl, _, rfl, second, behind, rfl, nanos, _, fraction, zone,
      strict, rfl, rfl⟩
    obtain ⟨seconds, rfl, rfl, rfl⟩ : ∃ seconds : Seconds, second = seconds.second ∧
        nanos = seconds.nanos ∧ behind = seconds.fractionText ++ zone.text := by
      rcases fraction with ⟨-, rfl, rfl⟩ | ⟨figures, taken, rfl, rfl⟩
      · exact ⟨⟨second, none⟩, rfl, rfl, rfl⟩
      · exact ⟨⟨second, some ⟨figures, taken.digits, taken.present⟩⟩, rfl, rfl, rfl⟩
    refine ⟨⟨year, month, day, some ⟨divider, hour, minute, some seconds, zone⟩⟩,
      ⟨_, rfl, rfl, strict⟩, ?_, rfl⟩
    simp [Spelling.text, Clock.figures, Clock.secondsText, Seconds.text]
  · rintro ⟨⟨year, month, day, _⟩, ⟨⟨divider, hour, minute, _ | seconds, zone⟩, rfl, timed,
      strict⟩, rfl, rfl⟩
    · cases timed
    · exact ⟨year, _, rfl, _, rfl, month, _, rfl, _, rfl, day, _, rfl, divider, _, rfl, hour, _,
        rfl, _, rfl, minute, _, rfl, _, rfl, seconds.second, _, List.append_assoc _ _ _,
        seconds.nanos, _, seconds.takesFraction zone, zone, strict, rfl, rfl⟩

end Rfc3339

section Spells

/-- What divides the date from the time of day: a letter, or any blanks, or nothing. -/
inductive Divides (text rest : List Char) : Prop
  | letter (c : Char) (isLetter : c = 'T' ∨ c = 't') (written : text = c :: rest)
  | blanks (gap : List Char) (blank : AllBlank gap) (written : text = gap ++ rest)

/-- Which texts are read as a moment. -/
inductive Spells (moment : Moment) (text : List Char) : Prop
  /-- A date and nothing else. -/
  | date (date : TakesDate moment.date text []) (bare : moment.time = none)
  /-- A date and a time of day. A small letter divides them in RFC 3339 alone. -/
  | time (time : TimeOfDay) (divided clock : List Char)
      (date : TakesDate moment.date text divided) (divides : Divides divided clock)
      (spelt : SpellsTime time clock) (timed : moment.time = some time)
      (strict : divided.head? = some 't' →
        ∃ spelling : Spelling, spelling.IsRfc3339 ∧ text = spelling.text)

/-- A spelling is read when its offset is less than a day; with a small letter it must be one
of RFC 3339. -/
structure Spelling.Readable (spelling : Spelling) : Prop where
  inDay : ∀ clock ∈ spelling.clock, clock.zone.InDay
  strict : ∀ clock ∈ spelling.clock, clock.divider = .small → spelling.IsRfc3339

/-- Every spelling of RFC 3339 is read. -/
theorem Spelling.IsRfc3339.readable {spelling : Spelling} (strict : spelling.IsRfc3339) :
    spelling.Readable where
  inDay := by
    obtain ⟨clock, given, -, zone⟩ := strict
    intro other member
    cases given.symm.trans member
    exact zone.inDay
  strict := fun _ _ _ => strict

/-- What is read is the moment of the spelling. -/
theorem Spelling.Readable.spells {spelling : Spelling} (readable : spelling.Readable) :
    Spells spelling.moment spelling.text := by
  have date : ∀ rest, TakesDate spelling.date
      (spelling.year.shown ++ '-' :: (spelling.month.shown ++ '-' :: (spelling.day.shown ++ rest)))
      rest := fun rest =>
    ⟨_, _, spelling.year.takesNumber .year _, spelling.month.takesNumber .month _,
      spelling.day.takesNumber .day _⟩
  cases given : spelling.clock with
  | none =>
    refine .date ?_ (by rw [moment, given]; rfl)
    rw [text, given]
    exact date []
  | some clock =>
    refine .time clock.time (clock.divider.character :: clock.figures) clock.figures ?_ ?_
      (clock.spellsTime (readable.inDay clock given)) (by rw [moment, given]; rfl) ?_
    · rw [text, given]
      exact date _
    · cases isDivider : clock.divider with
      | capital => exact .letter 'T' (.inl rfl) rfl
      | small => exact .letter 't' (.inr rfl) rfl
      | space => exact .blanks [' '] (by simp [AllBlank, isBlank]) rfl
    · intro small
      refine ⟨spelling, readable.strict clock given ?_, rfl⟩
      cases isDivider : clock.divider with
      | small => rfl
      | capital | space =>
        rw [isDivider] at small
        cases small

end Spells

end PredictionMarket.Calendar
