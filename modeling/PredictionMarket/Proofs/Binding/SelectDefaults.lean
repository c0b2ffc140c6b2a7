import PredictionMarket.Proofs.Binding.Documented
import PredictionMarket.Template.Check

/-!
# Defaults of select variables

The check of a template compares the default of a select variable with its options when the
default is a text. So in a template without issues a select variable that a caller leaves
out is bound to one of its options. The direction of a comparison is an exception: it is
`above` when it is left out, whatever its default.
-/

namespace PredictionMarket

/-- A select variable has no issues when it has options and a default that is a text is one of
them. -/
theorem Variable.issues_eq_nil_iff {name : String} {declared : Variable}
    (isSelect : declared.kind = .select) :
    declared.issues name = [] ↔ declared.options ≠ [] ∧
      ∀ fallback, declared.fallback = some (.string fallback) →
        ∃ option ∈ declared.options, option.value = fallback := by
  have textOnly : ∀ fallback, declared.fallback.bind Json.string? = some fallback ↔
      declared.fallback = some (.string fallback) := by
    intro fallback
    rw [Option.bind_eq_some_iff]
    constructor
    · rintro ⟨value, isDefault, isText⟩
      cases value with
      | string text =>
        cases isText
        exact isDefault
      | _ => cases isText
    · exact fun isDefault => ⟨_, isDefault, rfl⟩
  simp only [issues, isSelect, ne_eq, not_true_eq_false, if_false, List.isEmpty_iff, ← textOnly]
  by_cases noOptions : declared.options = []
  · simp [noOptions]
  · rw [if_neg noOptions]
    cases declared.fallback.bind Json.string? with
    | none => simp [noOptions]
    | some fallback => simp [noOptions]

/-- In a template without findings no declared variable has issues. -/
theorem Template.issues_of_findings_eq_nil {template : Template} {name : String}
    {declared : Variable} (clean : template.findings = [])
    (isDeclared : template.schema.find? name = some declared) : declared.issues name = [] := by
  rw [findings, List.map_eq_nil_iff, Template.issues, List.append_eq_nil_iff,
    List.append_eq_nil_iff, List.append_eq_nil_iff] at clean
  exact List.flatMap_eq_nil_iff.1 clean.1.1.2 _ (Dict.mem_of_find? isDeclared)

namespace Binding

variable {instant : Calendar.Instant} {schema : Schema} {values : Variables} {proxy name : String}

/-- A variable that is not given, and whose name no computed token has, is bound to its
default. -/
theorem find?_of_fallback (regular : instant.Regular) {declared : Variable} {fallback : String}
    (isDeclared : schema.find? name = some declared) (notComputed : name ∉ Token.computed)
    (notGiven : given values name = none)
    (hasDefault : declared.fallback = some (.string fallback)) :
    (atInstant instant schema values proxy).find? name = some fallback := by
  rw [Token.mem_computed_iff, not_or, not_or] at notComputed
  refine find?_of_documented regular (.declared (Dict.mem_keys_of_find? isDeclared)
    notComputed.1 (fun input isGrouped => ?_)
    (.fallback (given_eq_none_iff.1 notGiven) isDeclared hasDefault) rfl)
  rcases mem_groupedVariables.1 isGrouped with ⟨-, isPrice⟩ | ⟨-, isGoal⟩
  · exact absurd isPrice notComputed.2.1
  · exact absurd isGoal notComputed.2.2

/-- A direction that is not given is `above`. -/
theorem find?_comparisonType_of_not_given (regular : instant.Regular)
    (notGiven : given values Token.comparisonType = none) :
    (atInstant instant schema values proxy).find? Token.comparisonType = some "above" := by
  have above : directionInUse values = "above" := by rw [directionInUse, notGiven]; rfl
  exact find?_of_documented regular (above ▸ .comparisonType)

/-- In a template without findings, whose grouped numbers have not too many places, a select
variable that is left out, or given as `null`, is bound to its default if this is a text and no
computed token has its name; and then the default is one of its options. A select variable that is
the direction of the comparison is bound to `above` instead, whatever its default; a default that
says so is one of its options. -/
theorem omitted_select_is_bound_to_option (template : Template) (values : Variables)
    (proxy : String) (instant : Calendar.Instant) (clean : template.findings = [])
    (fits : template.schema.PlacesFit)
    (parsed : attestationInstant (values.find? Token.attestationTime) = .ok instant) :
    ∃ binding, make template.schema values proxy = .ok binding ∧
      ∀ name declared, template.schema.find? name = some declared → declared.kind = .select →
        (∀ value, values.find? name = some value → value.isNull = true) →
        (name ∉ Token.computed → ∀ fallback, declared.fallback = some (.string fallback) →
          binding.find? name = some fallback ∧
            ∃ option ∈ declared.options, option.value = fallback) ∧
        (name = Token.comparisonType → binding.find? name = some "above" ∧
          (declared.fallback = some (.string "above") →
            ∃ option ∈ declared.options, option.value = "above")) := by
  have regular := regular_of_attestationInstant parsed
  refine ⟨_, make_of_fits fits parsed, fun name declared isDeclared isSelect omitted => ?_⟩
  have notGiven : given values name = none := given_eq_none_iff.2 omitted
  have offered := ((Variable.issues_eq_nil_iff isSelect).1
    (Template.issues_of_findings_eq_nil clean isDeclared)).2
  refine ⟨fun notComputed fallback hasDefault => ?_, ?_⟩
  · exact ⟨find?_of_fallback regular isDeclared notComputed notGiven hasDefault,
      offered fallback hasDefault⟩
  · rintro rfl
    exact ⟨find?_comparisonType_of_not_given regular notGiven, offered "above"⟩

/-- A template with two select variables of one option each. The direction has its option as
the default; the default of the other one is no text. -/
def oneOptionTemplate : Template where
  id := "one-option"
  name := "One option"
  description := ""
  category := ""
  image := ""
  schema := Dict.ofList [
    ("comparisonType", Builtin.select "Direction" "below" [("below", "Below")]),
    ("side", { Builtin.select "Side" "up" [("up", "Up")] with fallback := some (.bool true) }),
    ("league", Builtin.select "League" "lpl" [("ldl", "LDL"), ("lpl", "LPL")])]
  question := "\x7b\x7bcomparisonType\x7d\x7d \x7b\x7bside\x7d\x7d"
  resolution := "\x7b\x7bleague\x7d\x7d"
  sources := [Builtin.source "results" "/results" "."]
  defaults := Builtin.defaults ["Yes", "No"] 66 5

/-- The first instant of 1970, and no league. -/
def undecidedValues : Variables :=
  Dict.ofList [("attestationTime", .ofUInt32 0), ("league", .null)]

/-- The league of the template is bound to its default, and the direction is not. -/
theorem omitted_league_is_bound_to_option :
    oneOptionTemplate.findings = [] ∧
    attestationInstant (undecidedValues.find? Token.attestationTime) = .ok ⟨0, 0⟩ ∧
    ∃ binding, make oneOptionTemplate.schema undecidedValues "/proxy" = .ok binding ∧
      binding.find? "league" = some "lpl" ∧
      binding.find? Token.comparisonType = some "above" := by
  have clean : oneOptionTemplate.findings = [] := by decide +kernel
  have parsed : attestationInstant (undecidedValues.find? Token.attestationTime) =
      .ok ⟨0, 0⟩ := rfl
  obtain ⟨binding, made, omitted⟩ :=
    omitted_select_is_bound_to_option oneOptionTemplate undecidedValues "/proxy" _ clean
      (by decide) parsed
  have league := (omitted "league" _ rfl rfl fun value isGiven => ?_).1 (by decide) "lpl" rfl
  · have direction := (omitted Token.comparisonType _ rfl rfl fun value isGiven => ?_).2 rfl
    · exact ⟨clean, parsed, binding, made, league.1, direction.1⟩
    · cases (rfl : undecidedValues.find? Token.comparisonType = none).symm.trans isGiven
  · cases (rfl : undecidedValues.find? "league" = some .null).symm.trans isGiven
    rfl

/-- A template without findings may bind a select variable that is left out to a value that is
none of its options: the direction, whose default does not count, and a variable with a default
that is no text. -/
theorem omitted_select_may_not_be_bound_to_option :
    oneOptionTemplate.findings = [] ∧
    attestationInstant (undecidedValues.find? Token.attestationTime) = .ok ⟨0, 0⟩ ∧
    ∀ name ∈ [Token.comparisonType, "side"],
      (name = Token.comparisonType ∨ name ∉ Token.computed) ∧
      undecidedValues.find? name = none ∧
      ∃ declared fallback binding, oneOptionTemplate.schema.find? name = some declared ∧
        declared.kind = .select ∧ declared.fallback = some fallback ∧ fallback.isNull = false ∧
        make oneOptionTemplate.schema undecidedValues "/proxy" = .ok binding ∧
        ¬ ∃ option ∈ declared.options, binding.find? name = some option.value := by
  have clean : oneOptionTemplate.findings = [] := by decide +kernel
  have parsed : attestationInstant (undecidedValues.find? Token.attestationTime) =
      .ok ⟨0, 0⟩ := rfl
  let binding := atInstant ⟨0, 0⟩ oneOptionTemplate.schema undecidedValues "/proxy"
  have made : make oneOptionTemplate.schema undecidedValues "/proxy" = .ok binding :=
    make_of_fits (by decide) parsed
  have direction : binding.find? Token.comparisonType = some "above" :=
    find?_comparisonType_of_not_given (regular_of_attestationInstant parsed) rfl
  have side : binding.find? "side" = some "true" := by decide +kernel
  refine ⟨clean, parsed, fun name listed => ?_⟩
  rcases List.mem_pair.1 listed with rfl | rfl
  · refine ⟨.inl rfl, rfl, _, _, _, rfl, rfl, rfl, rfl, made, ?_⟩
    rintro ⟨option, isOption, bound⟩
    cases List.mem_singleton.1 isOption
    exact absurd (direction.symm.trans bound) (by decide)
  · refine ⟨.inr (by decide), rfl, _, _, _, rfl, rfl, rfl, rfl, made, ?_⟩
    rintro ⟨option, isOption, bound⟩
    cases List.mem_singleton.1 isOption
    exact absurd (side.symm.trans bound) (by decide)

end Binding

end PredictionMarket
