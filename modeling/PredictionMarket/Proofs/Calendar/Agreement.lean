import PredictionMarket.Proofs.Calendar.Spelling

/-!
# No two layouts disagree

A text spells at most one moment: the date ends where its figures end, a letter or blanks lead
to the first digit of the time of day, a colon behind the minute announces seconds, and what is
left is the offset. Each layout reads only moments that the text spells, so two layouts that
read one text read the same instant, and they may be tried in any order. A layout with an offset
and one without never read the same text, because the moment says whether an offset is stated.
-/

namespace PredictionMarket.Calendar

open Text (AllBlank exists_blanks_append isBlank trimStart trimStart_append)

section Unique

variable {text rest clock : List Char} {time other : TimeOfDay}

/-- A text has at most one date in front. -/
theorem TakesDate.unique {date other : Date} {behind : List Char}
    (first : TakesDate date text rest) (second : TakesDate other text behind) :
    date = other ∧ rest = behind := by
  obtain ⟨_, _, year, month, day⟩ := first
  obtain ⟨_, _, otherYear, otherMonth, otherDay⟩ := second
  obtain ⟨sameYear, behindYear⟩ := year.unique otherYear
  cases behindYear
  obtain ⟨sameMonth, behindMonth⟩ := month.unique otherMonth
  cases behindMonth
  obtain ⟨sameDay, same⟩ := day.unique otherDay
  obtain ⟨year, month, day⟩ := date
  obtain ⟨otherYear, otherMonth, otherDay⟩ := other
  cases sameYear
  cases Int.ofNat.inj sameMonth
  cases Int.ofNat.inj sameDay
  exact ⟨rfl, same⟩

/-- An offset is never spelt by nothing. -/
theorem SpellsOffset.ne_nil {offset : Int} (spelt : SpellsOffset offset text) : text ≠ [] := by
  rcases spelt with ⟨_, _, -, -, rfl, -⟩ | ⟨_, _, _, _, -, -, rfl, -, -⟩ |
    ⟨_, _, _, _, _, -, -, rfl, -, -, -⟩ <;> simp

/-- What stands at the end of a text states at most one offset. -/
theorem SpellsZone.unique {zone other : Option Int} (first : SpellsZone zone text)
    (second : SpellsZone other text) : zone = other := by
  cases zone with
  | none =>
    cases other with
    | none => rfl
    | some offset => exact absurd first (SpellsOffset.ne_nil second)
  | some offset =>
    cases other with
    | none => exact absurd second (SpellsOffset.ne_nil first)
    | some otherOffset =>
      have read := looseOffset?_eq_some_iff.2 first
      rw [looseOffset?_eq_some_iff.2 second] at read
      cases read
      rfl

/-- No offset begins with a colon. -/
theorem SpellsZone.head?_ne {zone : Option Int} (spelt : SpellsZone zone text) :
    text.head? ≠ some ':' := by
  have inFront : ∀ blanks : List Char, ∀ c : Char, AllBlank blanks → c ≠ ':' → ∀ rest,
      (blanks ++ c :: rest).head? ≠ some ':' := by
    intro blanks c blank other rest first
    cases blanks with
    | nil => exact other (Option.some.inj first)
    | cons head tail =>
      cases Option.some.inj first
      exact absurd (blank ':' List.mem_cons_self) (by decide)
  cases zone with
  | none =>
    cases (spelt : text = [])
    exact fun first => by cases first
  | some offset =>
    rcases spelt with ⟨blanks, letter, blank, zulu, rfl, -⟩ |
      ⟨blanks, _, sign, _, blank, -, rfl, -, -⟩ | ⟨blanks, _, sign, _, _, blank, -, rfl, -, -, -⟩
    · exact inFront blanks letter blank (by rcases zulu with rfl | rfl <;> decide) _
    · exact inFront blanks _ blank (by cases sign <;> decide) _
    · exact inFront blanks _ blank (by cases sign <;> decide) _

/-- A text spells at most one time of day. A colon behind the minute tells the two kinds apart. -/
theorem SpellsTime.unique (first : SpellsTime time text) (second : SpellsTime other text) :
    time = other := by
  obtain ⟨hour, minute, second', nanos, zone⟩ := time
  obtain ⟨otherHour, otherMinute, otherSecond, otherNanos, otherZone⟩ := other
  rcases first with ⟨_, _, isHour, isMinute, rfl, rfl, spelt⟩ |
    ⟨_, _, _, _, isHour, isMinute, isSecond, fraction, spelt⟩ <;>
  rcases second with ⟨_, _, isOtherHour, isOtherMinute, rfl, rfl, otherSpelt⟩ |
    ⟨_, _, _, _, isOtherHour, isOtherMinute, isOtherSecond, otherFraction, otherSpelt⟩ <;>
  obtain ⟨sameHour, behindHour⟩ := isHour.unique isOtherHour <;>
  cases Int.ofNat.inj sameHour <;> cases behindHour <;>
  obtain ⟨sameMinute, behindMinute⟩ := isMinute.unique isOtherMinute <;>
  cases Int.ofNat.inj sameMinute <;> cases behindMinute
  · cases spelt.unique otherSpelt
    rfl
  · exact absurd rfl (SpellsZone.head?_ne spelt)
  · exact absurd rfl (SpellsZone.head?_ne otherSpelt)
  · obtain ⟨sameSecond, behindSecond⟩ := isSecond.unique isOtherSecond
    cases Int.ofNat.inj sameSecond
    cases behindSecond
    obtain ⟨sameNanos, behindFraction⟩ := fraction.unique otherFraction
    cases sameNanos
    cases behindFraction
    cases spelt.unique otherSpelt
    rfl

/-- A time of day begins with the digits of its hour. -/
theorem SpellsTime.exists_digit (spelt : SpellsTime time clock) :
    ∃ blanks c more, AllBlank blanks ∧ c.isDigit = true ∧ clock = blanks ++ c :: more := by
  rcases spelt with ⟨_, _, hour, -⟩ | ⟨_, _, _, _, hour, -⟩
  · exact hour.exists_digit (by decide)
  · exact hour.exists_digit (by decide)

/-- Blanks in front of a time of day are of no account. -/
theorem SpellsTime.trimStart (spelt : SpellsTime time clock) :
    SpellsTime time (trimStart clock) := by
  rcases spelt with ⟨_, _, hour, spelt⟩ | ⟨_, _, _, _, hour, spelt⟩
  · exact .inl ⟨_, _, hour.trimStart, spelt⟩
  · exact .inr ⟨_, _, _, _, hour.trimStart, spelt⟩

/-- A time of day behind any blanks begins with a blank or with a digit. -/
theorem SpellsTime.head?_append {gap : List Char} {c : Char} (spelt : SpellsTime time clock)
    (blank : AllBlank gap) (first : (gap ++ clock).head? = some c) :
    isBlank c = true ∨ c.isDigit = true := by
  obtain ⟨blanks, digit, more, blanksBlank, isDigit, rfl⟩ := spelt.exists_digit
  cases gap with
  | cons head tail => exact .inl (blank c (by cases first; exact List.mem_cons_self))
  | nil =>
    cases blanks with
    | cons head tail => exact .inl (blanksBlank c (by cases first; exact List.mem_cons_self))
    | nil => exact .inr (by cases first; exact isDigit)

/-- What stands behind the letter or the blanks that divide a date from a time of day. -/
def behindDivider : List Char → List Char
  | 'T' :: rest => Text.trimStart rest
  | 't' :: rest => Text.trimStart rest
  | text => Text.trimStart text

/-- The divider is known from the text. -/
theorem Divides.behindDivider_eq (divides : Divides text clock) (spelt : SpellsTime time clock) :
    behindDivider text = Text.trimStart clock := by
  rcases divides with ⟨c, rfl | rfl, rfl⟩ | ⟨gap, blank, rfl⟩
  · rfl
  · rfl
  · have notLetter : ∀ c : Char, isBlank c = false → c.isDigit = false → ∀ rest,
        gap ++ clock ≠ c :: rest := by
      intro c dense noDigit rest shape
      rcases spelt.head?_append blank (by rw [shape]; rfl : _ = some c) with isBlank | isDigit
      · exact absurd isBlank (by simp [dense])
      · exact absurd isDigit (by simp [noDigit])
    unfold behindDivider
    split
    · next shape => exact absurd shape (notLetter 'T' rfl rfl _)
    · next shape => exact absurd shape (notLetter 't' rfl rfl _)
    · exact trimStart_append blank

/-- A text spells at most one moment. -/
theorem Spells.unique {moment other : Moment} (first : Spells moment text)
    (second : Spells other text) : moment = other := by
  -- Nothing that stands behind a date alone can be divided into a divider and a time of day.
  have nothing : ∀ {time : TimeOfDay} {clock : List Char}, Divides [] clock →
      ¬ SpellsTime time clock := by
    rintro time clock (⟨c, -, shape⟩ | ⟨gap, -, shape⟩) spelt
    · cases shape
    · obtain ⟨blanks, c, more, -, -, rfl⟩ := spelt.exists_digit
      simp at shape
  obtain ⟨date, zone⟩ := moment
  obtain ⟨otherDate, otherZone⟩ := other
  rcases first with ⟨isDate, rfl⟩ | ⟨time, _, _, isDate, divides, spelt, rfl, -⟩ <;>
  rcases second with ⟨isOtherDate, rfl⟩ |
    ⟨otherTime, _, _, isOtherDate, otherDivides, otherSpelt, rfl, -⟩ <;>
  obtain ⟨same, behind⟩ := isDate.unique isOtherDate <;>
  cases same <;> cases behind
  · rfl
  · exact absurd otherSpelt (nothing otherDivides)
  · exact absurd spelt (nothing divides)
  · have trimmed := spelt.trimStart
    rw [← divides.behindDivider_eq spelt, otherDivides.behindDivider_eq otherSpelt] at trimmed
    rw [trimmed.unique otherSpelt.trimStart]

end Unique

section Layouts

variable {layout : Layout} {text : List Char} {reading : Reading}

/-- Whether a layout has a field for an offset. -/
def Layout.statesOffset (layout : Layout) : Bool :=
  layout.contains .colonOffset || layout.contains .looseOffset

/-- The offset that a moment states. -/
def Moment.offset? (moment : Moment) : Option Int := moment.time.bind TimeOfDay.offset

/-- Behind a date the loose layouts have nothing, or a divider and the fields of a time of
day; only those without a fraction are not among the latter. -/
theorem mem_looseTimes (member : layout ∈ looseTimes) :
    layout = [] ∨ ∃ lead, (lead = .mark 'T' ∨ lead = .blanks) ∧
      (layout = lead :: Layout.hourMinuteSecond .loose ∨
        ∃ seconds offset, layout = lead :: clockFields seconds offset) := by
  simp only [looseTimes, List.mem_cons, List.not_mem_nil, or_false] at member
  rcases member with rfl | rfl | rfl | rfl | rfl | rfl | rfl | rfl | rfl | rfl | rfl
  · exact .inr ⟨_, .inl rfl, .inr ⟨true, true, rfl⟩⟩
  · exact .inr ⟨_, .inl rfl, .inr ⟨false, true, rfl⟩⟩
  · exact .inr ⟨_, .inr rfl, .inr ⟨true, true, rfl⟩⟩
  · exact .inr ⟨_, .inr rfl, .inr ⟨false, true, rfl⟩⟩
  · exact .inr ⟨_, .inl rfl, .inr ⟨true, false, rfl⟩⟩
  · exact .inr ⟨_, .inl rfl, .inl rfl⟩
  · exact .inr ⟨_, .inl rfl, .inr ⟨false, false, rfl⟩⟩
  · exact .inr ⟨_, .inr rfl, .inr ⟨true, false, rfl⟩⟩
  · exact .inr ⟨_, .inr rfl, .inl rfl⟩
  · exact .inr ⟨_, .inr rfl, .inr ⟨false, false, rfl⟩⟩
  · exact .inl rfl

/-- The fields of a time of day read what is spelt. -/
theorem readFrom?_clockFields_iff {date : Date} {seconds offset : Bool} :
    Layout.readFrom? (.ofDate date) (clockFields seconds offset) text = some reading ↔
      ∃ time, (if seconds then SpellsSeconds time text else SpellsMinutes time text) ∧
        time.offset.isSome = offset ∧ time.reading date = reading := by
  cases seconds with
  | false => simp only [Bool.false_eq_true, if_false, readFrom?_minutes_iff]
  | true => simp only [if_true, readFrom?_seconds_iff]

/-- A divider and the fields of a time of day, behind a date, read what the text spells. -/
theorem exists_spells_of_clockFields {date : Date} {divided : List Char} {lead : Field}
    {seconds offset : Bool} (isDate : TakesDate date text divided)
    (isLead : lead = .mark 'T' ∨ lead = .blanks)
    (read : Layout.readFrom? (.ofDate date) (lead :: clockFields seconds offset) divided =
      some reading) :
    ∃ moment, Spells moment text ∧ moment.reading = reading ∧
      moment.offset?.isSome = offset := by
  obtain ⟨clock, divides, notSmall, read⟩ : ∃ clock, Divides divided clock ∧
      (∀ time, SpellsTime time clock → divided.head? ≠ some 't') ∧
      (clockFields seconds offset).readFrom? (.ofDate date) clock = some reading := by
    rcases isLead with rfl | rfl
    · obtain ⟨clock, rfl, read⟩ := readFrom?_mark_iff.1 read
      refine ⟨clock, .letter 'T' (.inl rfl) rfl, fun _ _ small => ?_, read⟩
      cases small
    · obtain ⟨blanks, blank, split⟩ := exists_blanks_append divided
      refine ⟨_, .blanks blanks blank split, fun time spelt small => ?_,
        readFrom?_blanks_iff.1 read⟩
      rw [split] at small
      exact (spelt.head?_append blank small).elim (by decide) (by decide)
  obtain ⟨time, spelt, stated, same⟩ := readFrom?_clockFields_iff.1 read
  have spelt : SpellsTime time clock := by
    cases seconds with
    | false => exact .inl spelt
    | true => exact .inr spelt
  exact ⟨⟨date, some time⟩, .time time divided clock isDate divides spelt rfl
    fun small => absurd small (notSmall time spelt), same, stated⟩

/-- What a layout reads is spelt by the text. -/
theorem exists_spells_of_read (member : layout ∈ Layout.all)
    (read : layout.readFrom? .blank text = some reading) :
    ∃ moment, Spells moment text ∧ moment.reading = reading ∧
      moment.offset?.isSome = layout.statesOffset := by
  rw [Layout.all_eq, List.mem_cons, List.mem_map] at member
  rcases member with rfl | ⟨behindDate, member, rfl⟩
  · obtain ⟨spelling, strict, rfl, same⟩ := readFrom?_rfc3339_iff.1 read
    obtain ⟨clock, given, -, zone⟩ := id strict
    obtain ⟨offset, stated⟩ := zone.exists_offset
    refine ⟨spelling.moment, strict.readable.spells, same, ?_⟩
    simp only [Moment.offset?, Spelling.moment, given, Option.map_some, Option.bind_some,
      Clock.time, stated]
    rfl
  obtain ⟨date, divided, isDate, read⟩ := readFrom?_date_iff.1 read
  rcases mem_looseTimes member with rfl | ⟨lead, isLead, rfl | ⟨seconds, offset, rfl⟩⟩
  · obtain ⟨rfl, same⟩ := readFrom?_nil_iff.1 read
    exact ⟨⟨date, none⟩, .date isDate rfl, same, rfl⟩
  · -- The layout with a fraction reads the text as well.
    have fraction : Layout.readFrom? (.ofDate date) (lead :: clockFields true false) divided =
        some reading := by
      rcases isLead with rfl | rfl
      · obtain ⟨clock, rfl, read⟩ := readFrom?_mark_iff.1 read
        exact readFrom?_mark_iff.2 ⟨clock, rfl, readFrom?_fraction_of_end rfl read⟩
      · exact readFrom?_blanks_iff.2
          (readFrom?_fraction_of_end rfl (readFrom?_blanks_iff.1 read))
    obtain ⟨moment, spells, same, stated⟩ := exists_spells_of_clockFields isDate isLead fraction
    exact ⟨moment, spells, same, stated.trans (by rcases isLead with rfl | rfl <;> rfl)⟩
  · obtain ⟨moment, spells, same, stated⟩ := exists_spells_of_clockFields isDate isLead read
    refine ⟨moment, spells, same, stated.trans ?_⟩
    rcases isLead with rfl | rfl <;> cases seconds <;> cases offset <;> rfl

/-- Two layouts that read one text read the same, and both state an offset or neither. -/
theorem eq_of_read {other : Layout} {otherReading : Reading} (member : layout ∈ Layout.all)
    (otherMember : other ∈ Layout.all) (read : layout.readFrom? .blank text = some reading)
    (otherRead : other.readFrom? .blank text = some otherReading) :
    reading = otherReading ∧ layout.statesOffset = other.statesOffset := by
  obtain ⟨moment, spells, rfl, stated⟩ := exists_spells_of_read member read
  obtain ⟨otherMoment, otherSpells, rfl, otherStated⟩ := exists_spells_of_read otherMember otherRead
  cases spells.unique otherSpells
  exact ⟨rfl, stated.symm.trans otherStated⟩

/-- A search whose answers agree finds the same in any order. -/
theorem findSome?_perm {α β : Type} {f : α → Option β} {first second : List α}
    (agree : ∀ a ∈ first, ∀ b ∈ first, ∀ x y, f a = some x → f b = some y → x = y)
    (same : first.Perm second) : first.findSome? f = second.findSome? f := by
  cases found : second.findSome? f with
  | none =>
    rw [List.findSome?_eq_none_iff] at found ⊢
    exact fun a member => found a (same.mem_iff.1 member)
  | some y =>
    obtain ⟨b, member, isFound⟩ := List.exists_of_findSome?_eq_some found
    have bMember : b ∈ first := same.mem_iff.2 member
    cases other : first.findSome? f with
    | none =>
      rw [List.findSome?_eq_none_iff.1 other b bMember] at isFound
      cases isFound
    | some x =>
      obtain ⟨a, aMember, isOther⟩ := List.exists_of_findSome?_eq_some other
      rw [agree a aMember b bMember x y isOther isFound]

/-- The order of the layouts does not matter: those that denote an instant for a text denote
the same one, a text is never read both with an offset and as UTC, and any order of the layouts
finds the same instant. -/
theorem layouts_agree (text : List Char) :
    (∀ first ∈ Layout.all, ∀ second ∈ Layout.all, ∀ instant other : Instant,
      first.read? text = some instant → second.read? text = some other → instant = other) ∧
    (∀ stated ∈ Layout.rfc3339 :: Layout.withOffset,
      ∀ assumed ∈ Layout.withoutOffset ++ [Layout.dateOnly],
        ¬ ((stated.read? text).isSome ∧ (assumed.read? text).isSome)) ∧
    (∀ order : List Layout, order.Perm Layout.all →
      order.findSome? (fun layout => layout.read? text) = Instant.ofText? text) := by
  have agree : ∀ first ∈ Layout.all, ∀ second ∈ Layout.all, ∀ instant other : Instant,
      first.read? text = some instant → second.read? text = some other → instant = other := by
    intro first firstMember second secondMember instant other isFirst isSecond
    obtain ⟨reading, read, denotes⟩ := Option.bind_eq_some_iff.1 isFirst
    obtain ⟨otherReading, otherRead, otherDenotes⟩ := Option.bind_eq_some_iff.1 isSecond
    rw [(eq_of_read firstMember secondMember read otherRead).1, otherDenotes] at denotes
    exact (Option.some.inj denotes).symm
  refine ⟨agree, ?_, fun order same => ?_⟩
  · rintro stated statedMember assumed assumedMember ⟨isStated, isAssumed⟩
    have states : ∀ layout ∈ Layout.rfc3339 :: Layout.withOffset,
        layout ∈ Layout.all ∧ layout.statesOffset = true := by decide
    have assumes : ∀ layout ∈ Layout.withoutOffset ++ [Layout.dateOnly],
        layout ∈ Layout.all ∧ layout.statesOffset = false := by decide
    obtain ⟨instant, isStated⟩ := Option.isSome_iff_exists.1 isStated
    obtain ⟨other, isAssumed⟩ := Option.isSome_iff_exists.1 isAssumed
    obtain ⟨reading, read, -⟩ := Option.bind_eq_some_iff.1 isStated
    obtain ⟨otherReading, otherRead, -⟩ := Option.bind_eq_some_iff.1 isAssumed
    have same := (eq_of_read (states stated statedMember).1 (assumes assumed assumedMember).1 read
      otherRead).2
    rw [(states stated statedMember).2, (assumes assumed assumedMember).2] at same
    cases same
  · exact findSome?_perm (fun first isFirst second isSecond => agree first
      (same.mem_iff.1 isFirst) second (same.mem_iff.1 isSecond)) same

/-- A time with a space, a fraction and a colon in its offset has the layout of RFC 3339 and a
loose one, which agree, and no layout without an offset. -/
theorem spaced_time_has_two_layouts :
    let text := "0999-12-31 23:59:59.25-00:30".toList
    let instant : Instant := ⟨-30610222201, 250000000⟩
    let loose := Layout.date .loose ++ .blanks :: clockFields true true
    (Layout.rfc3339.read? text = some instant ∧ loose.read? text = some instant ∧
      ∀ other, loose.read? text = some other → instant = other) ∧
    ¬ ((loose.read? text).isSome ∧ (Layout.dateOnly.read? text).isSome) := by
  intro text instant loose
  have strict : Layout.rfc3339.read? text = some instant := by decide +kernel
  have loosely : loose.read? text = some instant := by decide +kernel
  obtain ⟨agree, apart, -⟩ := layouts_agree text
  exact ⟨⟨strict, loosely, fun other => agree _ (by decide) loose (by decide) _ _ strict⟩,
    apart loose (by decide) _ (by decide)⟩

end Layouts

end PredictionMarket.Calendar
