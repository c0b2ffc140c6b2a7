import PredictionMarket.Proofs.Binding.Agreement
import PredictionMarket.Proofs.Calendar.ReadBack

/-!
# One instant in all time tokens

The tokens of the attestation time say the same instant in different ways. The second, the
millisecond and the start of the price window are the decimal texts of numbers that fit a
machine word; the date is read back as the first second of the day, and the time in Shanghai
as the second itself.
-/

namespace PredictionMarket

open Calendar (Instant Civil yearText)
open Decimal (AllDigits paddedDigits allDigits_paddedDigits exists_paddedDigits_cons)
open Text (isBlank isBlank_of_isDigit)

/-- The text of a number of seconds is its decimal text. -/
theorem secondsText_eq_toString (seconds : Int) : secondsText seconds = toString seconds := by
  unfold secondsText Decimal.intText Decimal.digits
  cases seconds with
  | ofNat n =>
    have notNegative : ¬ Int.ofNat n < 0 := Int.not_lt.2 (Int.natCast_nonneg n)
    rw [if_neg notNegative]
    rfl
  | negSucc n =>
    rw [if_pos (Int.negSucc_lt_zero n), String.ofList_cons]
    rfl

namespace Calendar

/-- No blank stands in the text of a date. -/
theorem isBlank_of_mem_dateText {civil : Civil} {c : Char} (member : c ∈ civil.dateText) :
    isBlank c = false := by
  have digit : ∀ width n, c ∈ paddedDigits width n → isBlank c = false := fun width n inDigits =>
    isBlank_of_isDigit (allDigits_paddedDigits width n c inDigits)
  simp only [Civil.dateText, yearText, List.mem_append, List.mem_cons] at member
  rcases member with (inYear | rfl | inMonth) | rfl | inDay
  · split at inYear
    · exact digit _ _ inYear
    · rcases List.mem_cons.1 inYear with rfl | inDigits
      · split <;> rfl
      · exact digit _ _ inDigits
  · rfl
  · exact digit _ _ inMonth
  · rfl
  · exact digit _ _ inDay

/-- The text of a date is not empty. -/
theorem dateText_ne_nil (civil : Civil) : civil.dateText ≠ [] := by
  simp [Civil.dateText]

variable {instant : Instant}

/-- The date of an instant is read as the first second of its day. -/
theorem attestationInstant_dateText (regular : instant.Regular) :
    ∃ nanos, attestationInstant (some (.string instant.dateText)) =
      .ok ⟨instant.seconds - instant.seconds % 86400, nanos⟩ := by
  obtain ⟨month, day⟩ := Date.lt_hundred_of_exists?
    (Date.exists?_ofDayNumber ((instant.seconds + 0) / secondsPerDay))
  obtain ⟨nanos, denoted⟩ := regular.instant?_ofDate
  refine ⟨nanos, ?_⟩
  rw [attestationInstant, Instant.dateText, String.toList_ofList,
    Text.trim_eq_self_of_forall fun c member => isBlank_of_mem_dateText member,
    ofText?_bareDate month day, denoted]
  rfl

/-- The time of an instant in Shanghai, with its offset, is read as the same second. -/
theorem attestationInstant_shanghaiText (regular : instant.Regular)
    (inYears : (instant.civil Instant.shanghaiOffset).date.year ≤ lastYear) :
    ∃ nanos, attestationInstant (some (.string (instant.shanghaiText ++ "+08:00"))) =
      .ok ⟨instant.seconds, nanos⟩ := by
  obtain ⟨month, day⟩ := Date.lt_hundred_of_exists?
    (Date.exists?_ofDayNumber ((instant.seconds + Instant.shanghaiOffset) / secondsPerDay))
  have whole : Instant.shanghaiOffset % 60 = 0 := rfl
  obtain ⟨hour, minute, second⟩ := regular.civil_le whole
  obtain ⟨nanos, denoted⟩ := regular.instant?_ofCivil whole
    (regular.inCalendar_civil (by decide) inYears)
  have secondLe : (instant.civil Instant.shanghaiOffset).second < 100 := by
    split at second <;> omega
  have written : (instant.shanghaiText ++ "+08:00").toList =
      (instant.civil Instant.shanghaiOffset).dateText ++
        (' ' :: (instant.civil Instant.shanghaiOffset).secondText ++ "+08:00".toList) := by
    simp [Instant.shanghaiText]
  have trimmed : Text.trim (instant.shanghaiText ++ "+08:00").toList =
      (instant.shanghaiText ++ "+08:00").toList := by
    refine Text.trim_eq_self (fun c first => ?_) (fun c last => ?_)
    · rw [written, List.head?_append_of_ne_nil _ (dateText_ne_nil _)] at first
      exact isBlank_of_mem_dateText (List.mem_of_mem_head? first)
    · rw [written, ← List.append_assoc, List.getLast?_append] at last
      cases last
      rfl
  refine ⟨nanos, ?_⟩
  rw [attestationInstant, trimmed, written,
    ofText?_secondText month day (by omega) (by omega) secondLe denoted]
  rfl

end Calendar

namespace Binding

/-- All time tokens of a binding denote one instant. With its whole second: the tokens of the
second, of the millisecond and of the start of the price window are the decimal texts of
numbers that a machine word holds; the token of the date is read as the first second of the
day in UTC; and the token of the time in Shanghai, with the offset behind it, is read as the
same second, whenever its year is one of the calendar. -/
theorem time_tokens_denote_one_instant (schema : Schema) (values : Variables) (proxy : String)
    (binding : Binding) (bound : make schema values proxy = .ok binding) :
    ∃ instant, attestationInstant (values.find? Token.attestationTime) = .ok instant ∧
      binding.find? Token.attestationTimeUnix = some (toString instant.seconds) ∧
      binding.find? Token.attestationTimeUnixMs = some (toString (1000 * instant.seconds)) ∧
      binding.find? Token.attestationWindowStartUnix =
        some (toString (instant.seconds - 3600)) ∧
      (-2 ^ 63 ≤ 1000 * instant.seconds ∧ 1000 * instant.seconds < 2 ^ 63) ∧
      (-2 ^ 63 ≤ instant.seconds - 3600 ∧ instant.seconds - 3600 < 2 ^ 63) ∧
      (∃ text nanos, binding.find? Token.attestationTimeDate = some text ∧
        attestationInstant (some (.string text)) =
          .ok ⟨instant.seconds - instant.seconds % 86400, nanos⟩) ∧
      ∃ text, binding.find? Token.attestationTimeFormatted = some text ∧
        ((instant.civil Instant.shanghaiOffset).date.year ≤ Calendar.lastYear →
          ∃ nanos, attestationInstant (some (.string (text ++ "+08:00"))) =
            .ok ⟨instant.seconds, nanos⟩) := by
  obtain ⟨instant, parsed, -, rfl⟩ := exists_of_make bound
  have regular := regular_of_attestationInstant parsed
  have begun : -8334601228800 ≤ instant.seconds := regular.begun
  have ended : instant.seconds < 8210266876800 := regular.ended
  have token : ∀ name text, (name, text) ∈ timeTokens instant →
      (atInstant instant schema values proxy).find? name = some text :=
    fun name text listed => find?_timeToken listed
  obtain ⟨dayNanos, day⟩ := Calendar.attestationInstant_dateText regular
  refine ⟨instant, parsed, ?_, ?_, ?_, by omega, by omega,
    ⟨_, dayNanos, token _ _ (by simp [timeTokens]), day⟩,
    _, token _ _ (by simp [timeTokens]),
    Calendar.attestationInstant_shanghaiText regular⟩
  · rw [← secondsText_eq_toString]
    exact token _ _ (by simp [timeTokens])
  · rw [← secondsText_eq_toString, Int.mul_comm]
    exact token _ _ (by simp [timeTokens])
  · rw [← secondsText_eq_toString]
    exact token _ _ (by simp [timeTokens, priceWindow])

/-- The last second of a day before the first year, with a leap second behind it. -/
def idesValues : Variables :=
  Dict.ofList [("attestationTime", .string "-0044-03-15T23:59:60Z")]

/-- A leap second of a year with a sign is shown in Shanghai on the next day, and read back
from there. -/
theorem time_tokens_of_ides :
    ∃ binding, make Dict.empty idesValues "" = .ok binding ∧
      binding.find? Token.attestationTimeUnix = some "-63549273601" ∧
      binding.find? Token.attestationTimeFormatted = some "-0044-03-16 07:59:60" ∧
      ∃ nanos, attestationInstant (some (.string "-0044-03-16 07:59:60+08:00")) =
        .ok ⟨-63549273601, nanos⟩ := by
  have read : Instant.ofText? (Text.trim "-0044-03-15T23:59:60Z".toList) =
      some ⟨-63549273601, 1000000000⟩ := by decide +kernel
  have parsed : attestationInstant (idesValues.find? Token.attestationTime) =
      .ok ⟨-63549273601, 1000000000⟩ := by
    change attestationInstant (some (.string "-0044-03-15T23:59:60Z")) = _
    rw [attestationInstant, read]
    rfl
  have formatted : (atInstant ⟨-63549273601, 1000000000⟩ Dict.empty idesValues "").find?
      Token.attestationTimeFormatted = some "-0044-03-16 07:59:60" := by decide +kernel
  obtain ⟨instant, isInstant, unix, -, -, -, -, -, text, isText, again⟩ :=
    time_tokens_denote_one_instant Dict.empty idesValues "" _ (make_of_fits (by decide) parsed)
  cases Except.ok.inj (isInstant.symm.trans parsed)
  cases Option.some.inj (isText.symm.trans formatted)
  exact ⟨_, make_of_fits (by decide) parsed, unix, formatted, again (by decide)⟩

end Binding

end PredictionMarket
