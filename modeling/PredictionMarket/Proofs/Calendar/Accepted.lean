import PredictionMarket.Attestation
import PredictionMarket.Proofs.Calendar.Agreement

/-!
# Which texts are attestation times

A text is an attestation time exactly when it spells a moment, without the blanks around it,
and the date and the time of day of that moment exist. Each moment that a text spells is read by
one of the layouts, and all that read the text agree. What may be spelt is wider than the
spellings of full width: the figures of a number may be fewer, and blanks may stand in front
of them.
-/

namespace PredictionMarket.Calendar

open Text (trimStart_append)

section Layouts

variable {text : List Char} {moment : Moment} {instant : Instant}

/-- There is a layout for every kind of time of day behind a date. -/
theorem clockFields_mem_all {lead : Field} (isLead : lead = .mark 'T' ∨ lead = .blanks)
    (seconds offset : Bool) :
    Layout.date .loose ++ lead :: clockFields seconds offset ∈ Layout.all := by
  rcases isLead with rfl | rfl <;> cases seconds <;> cases offset <;> decide

/-- A time of day that is spelt is read by the fields of its kind. -/
theorem SpellsTime.exists_clockFields {time : TimeOfDay} {clock : List Char}
    (spelt : SpellsTime time clock) (date : Date) :
    ∃ seconds, Layout.readFrom? (.ofDate date) (clockFields seconds time.offset.isSome) clock =
      some (time.reading date) := by
  rcases spelt with minutes | seconds
  · exact ⟨false, readFrom?_clockFields_iff.2 ⟨time, minutes, rfl, rfl⟩⟩
  · exact ⟨true, readFrom?_clockFields_iff.2 ⟨time, seconds, rfl, rfl⟩⟩

/-- A divider that is no small letter is read by a field, which leads to the time of day. -/
theorem Divides.exists_lead {time : TimeOfDay} {divided clock : List Char}
    (divides : Divides divided clock) (spelt : SpellsTime time clock)
    (notSmall : divided.head? ≠ some 't') (date : Date) :
    ∃ lead, (lead = .mark 'T' ∨ lead = .blanks) ∧
      ∃ seconds, Layout.readFrom? (.ofDate date) (lead :: clockFields seconds time.offset.isSome)
        divided = some (time.reading date) := by
  rcases divides with ⟨c, rfl | rfl, rfl⟩ | ⟨gap, blank, rfl⟩
  · obtain ⟨seconds, read⟩ := spelt.exists_clockFields date
    exact ⟨_, .inl rfl, seconds, readFrom?_mark_iff.2 ⟨clock, rfl, read⟩⟩
  · exact absurd rfl notSmall
  · obtain ⟨seconds, read⟩ := spelt.trimStart.exists_clockFields date
    refine ⟨_, .inr rfl, seconds, readFrom?_blanks_iff.2 ?_⟩
    rwa [trimStart_append blank]

/-- What a text spells is read by a layout. -/
theorem Spells.exists_read (spells : Spells moment text) :
    ∃ layout ∈ Layout.all, layout.readFrom? .blank text = some moment.reading := by
  rcases id spells with ⟨isDate, bare⟩ |
    ⟨time, divided, clock, isDate, divides, spelt, timed, strict⟩
  · refine ⟨Layout.date .loose ++ [], by decide, readFrom?_date_iff.2 ⟨_, [], isDate, ?_⟩⟩
    rw [Moment.reading, bare]
    rfl
  by_cases small : divided.head? = some 't'
  · -- A small letter divides in RFC 3339 alone, and what the text says is known already.
    obtain ⟨spelling, isRfc3339, rfl⟩ := strict small
    refine ⟨Layout.rfc3339, by decide, readFrom?_rfc3339_iff.2 ⟨spelling, isRfc3339, rfl, ?_⟩⟩
    rw [spells.unique isRfc3339.readable.spells]
  · obtain ⟨lead, isLead, seconds, read⟩ := divides.exists_lead spelt small moment.date
    refine ⟨_, clockFields_mem_all isLead seconds time.offset.isSome,
      readFrom?_date_iff.2 ⟨_, divided, isDate, ?_⟩⟩
    rw [read, Moment.reading, timed]

/-- A text denotes the instant of the moment that it spells. -/
theorem Instant.ofText?_eq_some_iff :
    Instant.ofText? text = some instant ↔
      ∃ moment, Spells moment text ∧ moment.reading.instant? = some instant := by
  constructor
  · intro found
    obtain ⟨layout, member, found⟩ := List.exists_of_findSome?_eq_some found
    obtain ⟨reading, read, denotes⟩ := Option.bind_eq_some_iff.1 found
    obtain ⟨moment, spells, rfl, -⟩ := exists_spells_of_read member read
    exact ⟨moment, spells, denotes⟩
  · rintro ⟨moment, spells, denotes⟩
    obtain ⟨layout, member, read⟩ := spells.exists_read
    cases found : Instant.ofText? text with
    | none =>
      have passed := List.findSome?_eq_none_iff.1 found layout member
      rw [Layout.read?, read, Option.bind_some, denotes] at passed
      cases passed
    | some other =>
      obtain ⟨first, firstMember, found⟩ := List.exists_of_findSome?_eq_some found
      obtain ⟨reading, firstRead, isOther⟩ := Option.bind_eq_some_iff.1 found
      rw [(eq_of_read firstMember member firstRead read).1, denotes] at isOther
      exact isOther.symm

end Layouts

end PredictionMarket.Calendar

namespace PredictionMarket

open Calendar

section Fallible

variable {α ε : Type} {found : Option α} {value : α} {fault other : ε}

/-- Where a fault stands for what is missing, a value comes out exactly when it is there. -/
theorem elim_eq_ok_iff : found.elim (Except.error fault) .ok = .ok value ↔ found = some value := by
  cases found with
  | none => exact iff_of_false nofun nofun
  | some kept => exact Except.ok.injEq kept value ▸ (Option.some_inj).symm

/-- The fault comes out exactly when nothing is there. -/
theorem elim_eq_error_iff :
    found.elim (Except.error fault) .ok = .error other ↔ found = none ∧ other = fault := by
  cases found with
  | none =>
    constructor
    · rintro ⟨⟩
      exact ⟨rfl, rfl⟩
    · rintro ⟨-, rfl⟩
      rfl
  | some kept => exact iff_of_false nofun (fun failed => nomatch failed.1)

end Fallible

section Attestation

variable {text : String}

/-- A text is an attestation time if its trimmed characters denote an instant, and a fault if
not. -/
theorem attestationInstant_string (text : String) :
    attestationInstant (some (.string text)) =
      (Instant.ofText? (Text.trim text.toList)).elim (.error (.notAnInstant text)) .ok := by
  rw [attestationInstant]
  cases Instant.ofText? (Text.trim text.toList) <;> rfl

/-- A text is an attestation time when its trimmed characters denote an instant. -/
theorem attestationInstant_string_eq_ok_iff {instant : Instant} :
    attestationInstant (some (.string text)) = .ok instant ↔
      Instant.ofText? (Text.trim text.toList) = some instant := by
  rw [attestationInstant_string, elim_eq_ok_iff]

/-- Every other text is an error that names it. -/
theorem attestationInstant_string_eq_error_iff {fault : AttestationFault} :
    attestationInstant (some (.string text)) = .error fault ↔
      Instant.ofText? (Text.trim text.toList) = none ∧ fault = .notAnInstant text := by
  rw [attestationInstant_string, elim_eq_error_iff]

/-- A text is accepted exactly when it spells a moment whose date and time of day exist, and
then as the instant of that moment; every other text is an error that names the text. -/
theorem attestation_texts_spell_moments (text : String) :
    (∀ instant, attestationInstant (some (.string text)) = .ok instant ↔
      ∃ moment, Spells moment (Text.trim text.toList) ∧ moment.reading.instant? = some instant) ∧
    (∀ fault, attestationInstant (some (.string text)) = .error fault ↔
      fault = .notAnInstant text ∧ ¬ ∃ moment instant, Spells moment (Text.trim text.toList) ∧
        moment.reading.instant? = some instant) := by
  refine ⟨fun instant => ?_, fun fault => ?_⟩
  · rw [attestationInstant_string_eq_ok_iff, Instant.ofText?_eq_some_iff]
  · rw [attestationInstant_string_eq_error_iff, Option.eq_none_iff_forall_ne_some, and_comm,
      exists_comm, not_exists]
    simp only [ne_eq, Instant.ofText?_eq_some_iff]

/-- A spelling of full width has at least ten characters. -/
theorem Calendar.Spelling.ten_le_length (spelling : Spelling) : 10 ≤ spelling.text.length := by
  simp only [Spelling.text, List.length_append, List.length_cons, spelling.year.length,
    spelling.month.length, spelling.day.length]
  omega

/-- A date with two figures for its year is accepted as a date of the first century, though it
is no spelling of full width. -/
theorem short_year_is_accepted :
    attestationInstant (some (.string "25-02-20")) = .ok ⟨-61373894400, 0⟩ ∧
      ¬ ∃ spelling : Spelling, Text.trim "25-02-20".toList = spelling.text := by
  refine ⟨attestationInstant_string_eq_ok_iff.2 (by decide +kernel), ?_⟩
  rintro ⟨spelling, shape⟩
  have long := spelling.ten_le_length
  rw [← shape] at long
  revert long
  decide

end Attestation

end PredictionMarket
