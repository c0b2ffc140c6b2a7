import PredictionMarket.Proofs.Generation.StrictMode
import PredictionMarket.Template.Check

/-!
# What the check promises to generation

The check of a template looks for names that are neither declared nor computed; strict
generation looks for tokens that the binding lacks. When every declared variable has a
value and the price and the goal are amounts, a binding has just the tokens that the check
knows, so both find the same first gap. The check compiles no pattern, so it does not foresee
that the keys of a binding are refused.
-/

namespace PredictionMarket

open Placeholder (BraceFree namesOf token)

/-- The wording of an issue with a placeholder. -/
theorem Issue.message_unknownPlaceholder (label name : String) :
    (Issue.unknownPlaceholder label name).message =
      label ++ " references unknown placeholder '" ++ String.ofList (token name.toList) ++ "'" :=
  rfl

/-- A declared variable has a value that can be shown: one that the caller gives, or else a
default, that is not `null`. -/
def HasRendering (schema : Schema) (values : Variables) (name : String) : Prop :=
  (∃ value, values.find? name = some value ∧ value.isNull = false) ∨
    ∃ declared value, schema.find? name = some declared ∧
      declared.fallback = some value ∧ value.isNull = false

/-- A variable has a finite numeric value: the one that the caller gives, or else its
default. -/
def HasAmount (schema : Schema) (values : Variables) (name : String) : Prop :=
  ∃ value amount, Binding.declaredValue schema values name = some value ∧
    value.amount? = some amount

namespace Binding

variable {schema : Schema} {values : Variables} {name : String}

/-- What can be shown of a declared variable is shown. -/
theorem isSome_text_of_hasRendering (rendered : HasRendering schema values name) :
    ((declaredValue schema values name).bind Json.plainText?).isSome = true := by
  rcases rendered with ⟨value, isGiven, notNull⟩ | ⟨declared, value, isDeclared, fallback, notNull⟩
  · have taken : given values name = some value := given_eq_some_iff.2 ⟨isGiven, notNull⟩
    rw [declaredValue, taken]
    simp [Json.isSome_plainText?, notNull]
  · unfold declaredValue
    cases taken : given values name with
    | none => simp [isDeclared, fallback, Json.isSome_plainText?, notNull]
    | some other =>
      have otherNotNull : other.isNull = false := (given_eq_some_iff.1 taken).2
      simp [Json.isSome_plainText?, otherNotNull]

/-- A numeric value is an amount. -/
theorem isSome_amount_of_hasAmount (numeric : HasAmount schema values name) :
    ((declaredValue schema values name).bind Json.amount?).isSome = true := by
  obtain ⟨value, amount, taken, isAmount⟩ := numeric
  rw [taken, Option.bind_some, isAmount]
  rfl

/-- When every declared variable can be shown and the price and the goal are amounts, a
binding has just the tokens that the template knows. -/
theorem contains_atInstant_eq_knows {template : Template} {instant : Calendar.Instant}
    {proxy : String}
    (rendered : ∀ name ∈ template.schema.keys, HasRendering template.schema values name)
    (price : HasAmount template.schema values "price")
    (goal : HasAmount template.schema values "goal") (name : String) :
    (atInstant instant template.schema values proxy).contains name = template.knows name := by
  rw [Bool.eq_iff_iff, contains_atInstant, Template.knows, Bool.or_eq_true, Dict.contains_iff,
    List.contains_iff_mem, Token.mem_computed_iff]
  have text : name ∈ template.schema.keys →
      ((declaredValue template.schema values name).bind Json.plainText?).isSome = true :=
    fun declared => isSome_text_of_hasRendering (rendered name declared)
  simp only [isSome_amount_of_hasAmount price, isSome_amount_of_hasAmount goal, and_true]
  exact or_congr (and_iff_left_of_imp text) Iff.rfl

end Binding

/-- The first issue with a placeholder is the first gap under a binding of just the tokens
that the template knows. -/
theorem Template.head?_placeholderIssues {template : Template} {binding : Binding}
    (same : ∀ name, binding.contains name = template.knows name) :
    template.placeholderIssues.head? =
      (binding.firstGap? template.fields).map fun gap =>
        Issue.unknownPlaceholder gap.1 gap.2 := by
  rw [placeholderIssues, List.head?_flatMap, Binding.firstGap?, List.map_findSome?]
  refine congrArg (List.findSome? · template.fields) (funext fun field => ?_)
  rw [List.head?_map, List.head?_filter, Function.comp_apply, Option.map_map,
    Binding.lacking?]
  simp only [same]
  rfl

/-- Under a binding of just the tokens that the template knows, strict rendering leaves a
placeholder unresolved exactly when there is an issue with a placeholder. -/
theorem Market.exists_unresolved_iff {template : Template} {binding : Binding}
    (keysFree : ∀ key ∈ binding.keys, BraceFree key.toList)
    (same : ∀ name, binding.contains name = template.knows name) :
    (∃ shown label, ofTemplate ⟨binding, true⟩ template =
      .error (.unresolvedPlaceholder shown label)) ↔ template.placeholderIssues ≠ [] := by
  have first := Template.head?_placeholderIssues same
  rw [ofTemplate_strict keysFree]
  cases gap : binding.firstGap? template.fields with
  | none =>
    rw [gap] at first
    have clean : template.placeholderIssues = [] := List.head?_eq_none_iff.1 first
    simp [Failure.settle, clean]
  | some lacking =>
    rw [gap] at first
    have reported : template.placeholderIssues ≠ [] := by
      intro clean
      rw [clean] at first
      cases first
    simp [Failure.settle, reported]

/-- Under such a binding the first issue with a placeholder names what is left
unresolved. -/
theorem Market.first_issue_of_unresolved {template : Template} {binding : Binding}
    (keysFree : ∀ key ∈ binding.keys, BraceFree key.toList)
    (same : ∀ name, binding.contains name = template.knows name) {shown label : String}
    (fails : ofTemplate ⟨binding, true⟩ template =
      .error (.unresolvedPlaceholder shown label)) :
    template.placeholderIssues.head?.map Issue.message =
      some (label ++ " references unknown placeholder '" ++ shown ++ "'") := by
  obtain ⟨name, gap, rfl⟩ := (ofTemplate_strict_eq_error_iff keysFree template).1 fails
  rw [Template.head?_placeholderIssues same, Binding.firstGap?_eq_some_iff.2 gap,
    Option.map_some, Option.map_some, Issue.message_unknownPlaceholder]

/-- The check and strict generation agree. For a template without braces in its declared
names and with few enough decimals, and variables that denote an instant, can be shown, and have a
numeric price and goal, there is a binding. When the pattern of its keys is not too large, strict
generation leaves a placeholder unresolved exactly when the check has an issue with a placeholder;
when it is, generation fails for that reason. Whenever strict generation leaves a placeholder
unresolved, the first issue names its label and its token. -/
theorem unresolved_iff_placeholderIssues (engine : PatternEngine) (catalog : Catalog) (id : String)
    (template : Template) (values : Variables) (proxy : String) (instant : Calendar.Instant)
    (found : catalog.find? id = some template)
    (schemaFree : ∀ name ∈ template.schema.keys, BraceFree name.toList)
    (fits : template.schema.PlacesFit)
    (parsed : attestationInstant (values.find? Token.attestationTime) = .ok instant)
    (rendered : ∀ name ∈ template.schema.keys, HasRendering template.schema values name)
    (price : HasAmount template.schema values "price")
    (goal : HasAmount template.schema values "goal") :
    ∃ binding, Binding.make template.schema values proxy = .ok binding ∧
      (engine.admits binding = true →
        ((∃ shown label, Market.generate engine catalog ⟨proxy, true⟩ id values =
          .error (.unresolvedPlaceholder shown label)) ↔ template.placeholderIssues ≠ [])) ∧
      (engine.admits binding = false →
        Market.generate engine catalog ⟨proxy, true⟩ id values = .error .patternTooLarge) ∧
      ∀ shown label, Market.generate engine catalog ⟨proxy, true⟩ id values =
          .error (.unresolvedPlaceholder shown label) →
        template.placeholderIssues.head?.map Issue.message =
          some (label ++ " references unknown placeholder '" ++ shown ++ "'") := by
  let binding := Binding.atInstant instant template.schema values proxy
  have keysFree : ∀ key ∈ binding.keys, BraceFree key.toList := Binding.keys_braceFree schemaFree
  have same : ∀ name, binding.contains name = template.knows name :=
    Binding.contains_atInstant_eq_knows rendered price goal
  have ready : engine.admits binding = true →
      Market.generate engine catalog ⟨proxy, true⟩ id values =
        Market.ofTemplate ⟨binding, true⟩ template := fun admitted =>
    Market.generate_of_ready found fits parsed admitted
  have refused : engine.admits binding = false →
      Market.generate engine catalog ⟨proxy, true⟩ id values = .error .patternTooLarge :=
    fun refused => Market.generate_of_refused found fits parsed refused
  refine ⟨binding, Binding.make_of_fits fits parsed, fun admitted => ?_, refused,
    fun shown label fails => ?_⟩
  · rw [ready admitted]
    exact Market.exists_unresolved_iff keysFree same
  · cases admitted : engine.admits binding with
    | true => exact Market.first_issue_of_unresolved keysFree same (ready admitted ▸ fails)
    | false => cases (refused admitted).symm.trans fails

/-- The template with gaps has issues, and strict generation fails; the first issue names the
gap that is left. -/
theorem gapTemplate_unresolved :
    Market.gapCatalog.find? "gaps" = some Market.gapTemplate ∧
    (∀ name ∈ Market.gapTemplate.schema.keys, BraceFree name.toList ∧
      HasRendering Market.gapTemplate.schema Market.gapValues name) ∧
    HasAmount Market.gapTemplate.schema Market.gapValues "price" ∧
    HasAmount Market.gapTemplate.schema Market.gapValues "goal" ∧
    ∃ shown label,
      Market.generate .standard Market.gapCatalog ⟨"", true⟩ "gaps" Market.gapValues =
        .error (.unresolvedPlaceholder shown label) ∧
      label ++ " references unknown placeholder '" ++ shown ++ "'" =
        "dataSources[0].queryParams.from references unknown placeholder '\x7b\x7bearlier\x7d\x7d'" := by
  have found : Market.gapCatalog.find? "gaps" = some Market.gapTemplate := rfl
  have declared : ∀ name ∈ Market.gapTemplate.schema.keys, BraceFree name.toList ∧
      HasRendering Market.gapTemplate.schema Market.gapValues name := by
    have names : Market.gapTemplate.schema.keys = ["side"] := rfl
    intro name listed
    rw [names] at listed
    cases List.mem_singleton.1 listed
    exact ⟨by decide, .inr ⟨_, .string "up", rfl, rfl, rfl⟩⟩
  have fits : Market.gapTemplate.schema.PlacesFit := by decide
  have parsed : attestationInstant (Market.gapValues.find? Token.attestationTime) =
      .ok ⟨0, 0⟩ := rfl
  have numeric : ∀ value : Json, value.amount?.isSome = true →
      ∃ amount, value.amount? = some amount := fun _ => Option.isSome_iff_exists.1
  obtain ⟨half, isHalf⟩ := numeric (.string "0.5") (by decide +kernel)
  obtain ⟨seven, isSeven⟩ := numeric (.number (.integer ⟨7, by decide, by decide⟩))
    (by decide +kernel)
  have price : HasAmount Market.gapTemplate.schema Market.gapValues "price" :=
    ⟨_, half, rfl, isHalf⟩
  have goal : HasAmount Market.gapTemplate.schema Market.gapValues "goal" :=
    ⟨_, seven, rfl, isSeven⟩
  obtain ⟨binding, made, agreement, -, first⟩ := unresolved_iff_placeholderIssues .standard
    Market.gapCatalog "gaps" Market.gapTemplate Market.gapValues "" ⟨0, 0⟩ found
    (fun name listed => (declared name listed).1) fits parsed
    (fun name listed => (declared name listed).2) price goal
  have admitted : PatternEngine.standard.admits binding = true := by
    rw [← Except.ok.inj ((Binding.make_of_fits fits parsed).symm.trans made)]
    decide +kernel
  have reported : Market.gapTemplate.placeholderIssues.head?.map Issue.message = some
      "dataSources[0].queryParams.from references unknown placeholder '\x7b\x7bearlier\x7d\x7d'" := by
    decide +kernel
  have hasIssues : Market.gapTemplate.placeholderIssues ≠ [] := by
    intro clean
    rw [clean] at reported
    cases reported
  obtain ⟨shown, label, fails⟩ := (agreement admitted).2 hasIssues
  exact ⟨found, declared, price, goal, shown, label, fails,
    Option.some.inj ((first shown label fails).symm.trans reported)⟩

end PredictionMarket
