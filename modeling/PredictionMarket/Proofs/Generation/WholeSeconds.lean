import PredictionMarket.Catalog.Builtin
import PredictionMarket.Market
import PredictionMarket.Proofs.Binding.Agreement

/-!
# Markets and whole seconds

No text of an instant shows a part of a second, and the attestation value of the caller is
hidden by the token of the same name. So outside leap seconds a market depends on the
attestation value through the whole second in UTC alone: neither the spelling of the value
nor its fraction of a second is seen in a market or in a failure.
-/

namespace PredictionMarket

open Calendar (Instant)

namespace Calendar.Instant

variable {first second : Instant}

/-- A clock shows the same at two instants of one second, outside leap seconds. -/
theorem civil_congr (sameSecond : first.seconds = second.seconds)
    (firstRegular : first.inLeapSecond = false) (secondRegular : second.inLeapSecond = false)
    (offset : Int) : first.civil offset = second.civil offset := by
  have noSecond : ∀ instant : Instant, instant.inLeapSecond = false →
      instant.nanos / nanosPerSecond = 0 := fun instant regular =>
    Nat.div_eq_of_lt (by simpa [inLeapSecond] using regular)
  rw [civil, civil, sameSecond, noSecond first firstRegular, noSecond second secondRegular]

end Calendar.Instant

namespace Binding

/-- Two instants of one second have the same time tokens, outside leap seconds. -/
theorem timeTokens_congr {first second : Instant}
    (sameSecond : first.seconds = second.seconds)
    (firstRegular : first.inLeapSecond = false)
    (secondRegular : second.inLeapSecond = false) : timeTokens first = timeTokens second := by
  have sameClock := Instant.civil_congr sameSecond firstRegular secondRegular
  simp only [timeTokens, Instant.displayText, Instant.dateText, Instant.shanghaiText,
    Instant.longText, sameClock, sameSecond]

end Binding

namespace Market

/-- A market depends on the attestation value only through its whole second in UTC. Two
attestation values that denote instants of one second, neither in a leap second, make the
same market or the same failure in every catalog, under every identifier, and for all other
variables and options. -/
theorem generate_of_same_second (engine : PatternEngine) (catalog : Catalog)
    (options : GenerationOptions) (id : String) (values : Variables) (first second : Json)
    (firstInstant secondInstant : Instant)
    (firstParsed : attestationInstant (some first) = .ok firstInstant)
    (secondParsed : attestationInstant (some second) = .ok secondInstant)
    (sameSecond : firstInstant.seconds = secondInstant.seconds)
    (firstRegular : firstInstant.inLeapSecond = false)
    (secondRegular : secondInstant.inLeapSecond = false) :
    generate engine catalog options id (values.insert Token.attestationTime first) =
      generate engine catalog options id (values.insert Token.attestationTime second) := by
  have own : ∀ value : Json,
      (values.insert Token.attestationTime value).find? Token.attestationTime = some value :=
    fun value => by rw [Dict.find?_insert, if_pos rfl]
  have others : ∀ name, name ≠ Token.attestationTime →
      (values.insert Token.attestationTime first).find? name =
        (values.insert Token.attestationTime second).find? name := fun name different => by
    rw [Dict.find?_insert, Dict.find?_insert, if_neg different, if_neg different]
  have sameBinding : ∀ schema : Schema,
      Binding.make schema (values.insert Token.attestationTime first) options.proxy =
        Binding.make schema (values.insert Token.attestationTime second) options.proxy := by
    intro schema
    exact Binding.make_congr_of_times ((own first).symm ▸ firstParsed)
      ((own second).symm ▸ secondParsed)
      (Binding.timeTokens_congr sameSecond firstRegular secondRegular) (.of_find?_eq others)
      options.proxy
  unfold generate
  cases catalog.find? id with
  | none => rfl
  | some template => simp only [sameBinding]

/-- The first half second of noon in UTC, written with the offset of Shanghai and a
fraction, and as milliseconds, makes one market. -/
theorem generate_noon_in_shanghai :
    attestationInstant (some (.string " 2025-02-20T20:00:00.25+08:00")) =
      .ok ⟨1740052800, 250000000⟩ ∧
    attestationInstant (some (.number (.integer ⟨1740052800499, by decide, by decide⟩))) =
      .ok ⟨1740052800, 499000000⟩ ∧
    ∀ values : Variables,
      generate .standard Catalog.builtin ⟨"/proxy", true⟩ "flr-price"
          (values.insert Token.attestationTime (.string " 2025-02-20T20:00:00.25+08:00")) =
        generate .standard Catalog.builtin ⟨"/proxy", true⟩ "flr-price"
          (values.insert Token.attestationTime
            (.number (.integer ⟨1740052800499, by decide, by decide⟩))) := by
  have read : Instant.ofText? (Text.trim " 2025-02-20T20:00:00.25+08:00".toList) =
      some ⟨1740052800, 250000000⟩ := by decide +kernel
  have written : attestationInstant (some (.string " 2025-02-20T20:00:00.25+08:00")) =
      .ok ⟨1740052800, 250000000⟩ := by
    rw [attestationInstant, read]
    rfl
  have counted : attestationInstant
      (some (.number (.integer ⟨1740052800499, by decide, by decide⟩))) =
      .ok ⟨1740052800, 499000000⟩ := rfl
  refine ⟨written, counted, fun values => ?_⟩
  exact generate_of_same_second _ _ _ _ values _ _ ⟨1740052800, 250000000⟩
    ⟨1740052800, 499000000⟩ written counted rfl (by decide) (by decide)

end Market

end PredictionMarket
