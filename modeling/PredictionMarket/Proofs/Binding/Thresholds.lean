import PredictionMarket.Proofs.Binding.Documented
import PredictionMarket.Proofs.Binding.PlainValues
import PredictionMarket.Proofs.Decimal.Integral

/-!
# The threshold that is shown and the threshold that is checked

A price or a goal is bound twice: as it is, for the rule that is evaluated, and grouped, for the
text that is read. The grouped form goes through the nearest binary64 value, so for an integer
the two are the same number exactly when the integer has such a value
(`grouped_threshold_is_nearest`); every integer up to two to the power of 53 has one.
-/

namespace PredictionMarket

open Calendar (Instant)
open Decimal (Double withoutCommas intText intText_injective)

namespace Binding

variable {instant : Instant} {schema : Schema} {values : Variables} {input token : String}

/-- A declared price or goal stands under its own name. -/
theorem documented_threshold {proxy : String} {value : Json} {text : String}
    (isGrouped : (input, token) ∈ groupedVariables) (isDeclared : input ∈ schema.keys)
    (inUse : InUse schema values input value) (shown : value.plainText? = some text) :
    Documented instant schema values proxy input text := by
  refine documented_of_declared isDeclared ?_ inUse shown
  rcases mem_groupedVariables.1 isGrouped with ⟨rfl, -⟩ | ⟨rfl, -⟩ <;> decide

/-- An integral price or goal is bound exactly, and its grouped form is that of the nearest
binary64 value. The two are the same integer exactly when the integer is a significand of 53
bits times a power of two. -/
theorem grouped_threshold_is_nearest (schema : Schema) (values : Variables) (proxy : String)
    (instant : Instant) (fits : schema.PlacesFit)
    (parsed : attestationInstant (values.find? Token.attestationTime) = .ok instant)
    (isGrouped : (input, token) ∈ groupedVariables) (isDeclared : input ∈ schema.keys)
    {word : WordInt} (isGiven : values.find? input = some (.number (.integer word))) :
    ∃ (binding : Binding) (shown : List Char) (nearest : Double),
      make schema values proxy = .ok binding ∧
      binding.find? input = some (String.ofList (intText word.toInt)) ∧
      binding.find? token = some (String.ofList shown) ∧
      Double.ofInt? word.toInt = some nearest ∧
      withoutCommas shown = intText nearest.truncate ∧
      (withoutCommas shown = intText word.toInt ↔ ∃ significand exponent,
        significand < 2 ^ 53 ∧ word.toInt.natAbs = significand * 2 ^ exponent) := by
  have inUse : InUse schema values input (.number (.integer word)) := .given isGiven rfl
  obtain ⟨nearest, isNearest⟩ := (Number.integer word).exists_toDouble?
  obtain ⟨whole, isWhole⟩ := Double.exists_integral isNearest
  have ungrouped := Double.withoutCommas_grouped isWhole (placesInUse schema input)
  have regular := regular_of_attestationInstant parsed
  refine ⟨_, _, nearest, make_of_fits fits parsed,
    find?_of_documented regular (documented_threshold isGrouped isDeclared inUse rfl),
    find?_of_documented regular (.grouped isGrouped inUse isNearest), isNearest, ungrouped, ?_⟩
  rw [ungrouped, ← Double.truncate_eq_iff isNearest]
  exact ⟨intText_injective, congrArg intText⟩

/-- A schema that declares the goal, without places. -/
def goalSchema : Schema := Dict.ofList [("goal", Builtin.number "Goal" 0)]

/-- A goal of more than a million below zero, at the first instant of 1970. -/
def roundGoal : Variables :=
  Dict.ofList [
    ("attestationTime", .ofUInt32 0),
    ("goal", .number (.integer ⟨-1234567, by decide, by decide⟩))]

/-- A goal that has a binary64 value is shown as it is checked. -/
theorem shown_goal_is_checked_goal :
    ∃ binding shown, make goalSchema roundGoal "/proxy" = .ok binding ∧
      binding.find? "goal" = some (String.ofList (intText (-1234567))) ∧
      binding.find? Token.goalFormatted = some (String.ofList shown) ∧
      withoutCommas shown = intText (-1234567) := by
  obtain ⟨binding, shown, nearest, made, checked, grouped, -, -, agree⟩ :=
    grouped_threshold_is_nearest goalSchema roundGoal "/proxy" ⟨0, 0⟩ (by decide) rfl
      (show ("goal", Token.goalFormatted) ∈ groupedVariables by decide) (by decide) rfl
  exact ⟨binding, shown, made, checked, grouped, agree.2 ⟨1234567, 0, by decide, rfl⟩⟩

/-- A schema that declares the price. -/
def priceSchema : Schema := Dict.ofList [("price", Builtin.number "Price" 2)]

/-- The price that is shown is the even integer below the price that is checked. -/
theorem shown_threshold_differs :
    ∃ binding, make priceSchema widePriceValues "/proxy" = .ok binding ∧
      binding.find? "price" = some "9007199254740993" ∧
      binding.find? Token.priceFormatted = some "9,007,199,254,740,992" ∧
      withoutCommas "9,007,199,254,740,992".toList ≠ "9007199254740993".toList := by
  have parsed : attestationInstant (widePriceValues.find? Token.attestationTime) = .ok ⟨0, 0⟩ := rfl
  refine ⟨_, make_of_fits (by decide) parsed, ?_, ?_, ?_⟩ <;> decide +kernel

end Binding

end PredictionMarket
