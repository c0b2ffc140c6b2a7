import PredictionMarket.Catalog.Builtin
import PredictionMarket.Proofs.Catalog.Lookup
import PredictionMarket.Proofs.Generation.Traversal
import PredictionMarket.Proofs.Rendering.Cut

/-!
# Strict generation

Strict generation returns what lenient generation returns, or names a gap: the first field
in order that mentions a token which the binding lacks, and the first such token in it.
`FirstGap` says what that gap is without rendering anything. Before it come an unknown
identifier, an invalid attestation time and a pattern that is too large, which fail in both modes.
-/

namespace PredictionMarket

open Placeholder (BraceFree namesOf token)
open Failure (settle settle_eq_error_iff)

/-- A label and a name are those of the first gap in a list of labelled fields: no earlier
field mentions a token that the binding lacks, and the name is the first such token that
the field mentions. -/
def FirstGap (binding : Binding) (fields : List (String × String)) (label name : String) :
    Prop :=
  ∃ before text after, fields = before ++ (label, text) :: after ∧
    (∀ field ∈ before, ∀ other ∈ namesOf field.2, binding.contains other = true) ∧
    ∃ earlier later, namesOf text = earlier ++ name :: later ∧
      (∀ other ∈ earlier, binding.contains other = true) ∧ binding.contains name = false

namespace Binding

/-- The first token that a text mentions and a binding lacks. -/
def lacking? (binding : Binding) (text : String) : Option String :=
  (namesOf text).find? fun name => !binding.contains name

/-- The label of the first field with a gap, and the name that is lacking there. -/
def firstGap? (binding : Binding) (fields : List (String × String)) :
    Option (String × String) :=
  fields.findSome? fun field => (binding.lacking? field.2).map fun name => (field.1, name)

variable {binding : Binding}

/-- A text without gaps mentions bound tokens only. -/
theorem lacking?_eq_none_iff {text : String} :
    binding.lacking? text = none ↔ ∀ name ∈ namesOf text, binding.contains name = true := by
  simp [lacking?]

/-- The token that is lacking comes behind bound ones. -/
theorem lacking?_eq_some_iff {text name : String} :
    binding.lacking? text = some name ↔
      ∃ earlier later, namesOf text = earlier ++ name :: later ∧
        (∀ other ∈ earlier, binding.contains other = true) ∧ binding.contains name = false := by
  rw [lacking?, List.find?_eq_some_iff_append]
  constructor
  · rintro ⟨lacks, earlier, later, parts, bound⟩
    exact ⟨earlier, later, parts, fun other member => by simpa using bound other member,
      by simpa using lacks⟩
  · rintro ⟨earlier, later, parts, bound, lacks⟩
    exact ⟨by simp [lacks], earlier, later, parts, fun other member => by
      simp [bound other member]⟩

/-- The first gap that is looked for is the first gap there is. -/
theorem firstGap?_eq_some_iff {fields : List (String × String)} {label name : String} :
    binding.firstGap? fields = some (label, name) ↔ FirstGap binding fields label name := by
  rw [firstGap?, List.findSome?_eq_some_iff, FirstGap]
  constructor
  · rintro ⟨before, ⟨here, text⟩, after, parts, gap, complete⟩
    obtain ⟨found, lacks, same⟩ := Option.map_eq_some_iff.1 gap
    cases same
    refine ⟨before, text, after, parts, fun field member => ?_, lacking?_eq_some_iff.1 lacks⟩
    exact lacking?_eq_none_iff.1 (Option.map_eq_none_iff.1 (complete field member))
  · rintro ⟨before, text, after, parts, complete, lacks⟩
    refine ⟨before, (label, text), after, parts, ?_, fun field member => ?_⟩
    · rw [lacking?_eq_some_iff.2 lacks]
      rfl
    · rw [lacking?_eq_none_iff.2 (complete field member)]
      rfl

/-- There is no first gap exactly when no field mentions a token that is not bound. -/
theorem firstGap?_eq_none_iff {fields : List (String × String)} :
    binding.firstGap? fields = none ↔
      ∀ field ∈ fields, ∀ name ∈ namesOf field.2, binding.contains name = true := by
  rw [firstGap?, List.findSome?_eq_none_iff]
  exact forall₂_congr fun field _ => Option.map_eq_none_iff.trans lacking?_eq_none_iff

end Binding

namespace Renderer

variable {binding : Binding}

/-- In strict mode a field fails with the first token that it mentions and the binding
lacks. -/
theorem failure?_strict (keysFree : ∀ key ∈ binding.keys, BraceFree key.toList)
    (field : String × String) :
    failure? ⟨binding, true⟩ field =
      (binding.lacking? field.2).map fun name =>
        .unresolvedPlaceholder (String.ofList (token name.toList)) field.1 := by
  have sameTest : (fun name : List Char => decide (String.ofList name ∉ binding.keys)) =
      (fun name => !binding.contains name) ∘ String.ofList := by
    funext name
    rw [Bool.eq_iff_iff]
    simp [← Dict.contains_iff]
  rw [failure?, if_pos rfl, cut, Cut.unresolved?_ofText keysFree, sameTest, Binding.lacking?,
    namesOf, List.find?_map, Option.map_map]
  refine congrArg (Option.map · _) (funext fun name => ?_)
  simp

/-- In strict mode the first gap is the first failure. -/
theorem firstFailure?_strict (keysFree : ∀ key ∈ binding.keys, BraceFree key.toList)
    (fields : List (String × String)) :
    firstFailure? ⟨binding, true⟩ fields =
      (binding.firstGap? fields).map fun gap =>
        .unresolvedPlaceholder (String.ofList (token gap.2.toList)) gap.1 := by
  rw [firstFailure?, Binding.firstGap?, List.map_findSome?]
  refine congrArg (List.findSome? · fields) (funext fun field => ?_)
  rw [failure?_strict keysFree, Function.comp_apply, Option.map_map]
  rfl

end Renderer

namespace Market

variable {binding : Binding}

/-- Outside strict mode a template always becomes its rendered market. -/
theorem ofTemplate_lenient (binding : Binding) (template : Template) :
    ofTemplate ⟨binding, false⟩ template = .ok (rendered ⟨binding, false⟩ template) := by
  rw [ofTemplate_eq, Renderer.firstFailure?_lenient]
  rfl

/-- In strict mode a template becomes the same market unless there is a gap. -/
theorem ofTemplate_strict (keysFree : ∀ key ∈ binding.keys, BraceFree key.toList)
    (template : Template) :
    ofTemplate ⟨binding, true⟩ template =
      settle ((binding.firstGap? template.fields).map fun gap =>
          .unresolvedPlaceholder (String.ofList (token gap.2.toList)) gap.1)
        (rendered ⟨binding, false⟩ template) := by
  rw [ofTemplate_eq, Renderer.firstFailure?_strict keysFree]
  rfl

/-- In strict mode a template becomes the same market, or an unresolved placeholder is the
failure. -/
theorem ofTemplate_strict_cases (keysFree : ∀ key ∈ binding.keys, BraceFree key.toList)
    (template : Template) :
    ofTemplate ⟨binding, true⟩ template = .ok (rendered ⟨binding, false⟩ template) ∨
      ∃ shown label, ofTemplate ⟨binding, true⟩ template =
        .error (.unresolvedPlaceholder shown label) := by
  rw [ofTemplate_strict keysFree]
  cases binding.firstGap? template.fields with
  | none => exact .inl rfl
  | some gap => exact .inr ⟨_, _, rfl⟩

/-- In strict mode a placeholder is unresolved exactly when it is the first gap. -/
theorem ofTemplate_strict_eq_error_iff (keysFree : ∀ key ∈ binding.keys, BraceFree key.toList)
    (template : Template) {shown label : String} :
    ofTemplate ⟨binding, true⟩ template = .error (.unresolvedPlaceholder shown label) ↔
      ∃ name, FirstGap binding template.fields label name ∧
        shown = String.ofList (token name.toList) := by
  rw [ofTemplate_strict keysFree, settle_eq_error_iff, Option.map_eq_some_iff]
  constructor
  · rintro ⟨⟨here, name⟩, gap, same⟩
    injection same with sameShown sameLabel
    subst sameLabel
    exact ⟨name, Binding.firstGap?_eq_some_iff.1 gap, sameShown.symm⟩
  · rintro ⟨name, gap, rfl⟩
    exact ⟨(label, name), Binding.firstGap?_eq_some_iff.2 gap, rfl⟩

/-- In strict mode a template fails exactly when a field mentions a token that the binding
lacks. -/
theorem ofTemplate_strict_fails_iff (keysFree : ∀ key ∈ binding.keys, BraceFree key.toList)
    (template : Template) :
    (∃ failure, ofTemplate ⟨binding, true⟩ template = .error failure) ↔
      ∃ field ∈ template.fields, ∃ name ∈ namesOf field.2, binding.contains name = false := by
  have failing : (∃ failure, ofTemplate ⟨binding, true⟩ template = .error failure) ↔
      ¬ binding.firstGap? template.fields = none := by
    rw [ofTemplate_strict keysFree]
    cases binding.firstGap? template.fields <;> simp [settle]
  rw [failing, Binding.firstGap?_eq_none_iff]
  simp

/-- What a generation fails with. An unknown identifier comes first, and a value that
denotes no instant second, in both modes. Otherwise, for a schema with few enough decimals, both
modes fail alike when the pattern of the keys is too large. When it is not, lenient generation
succeeds, and strict generation returns the same market or names the first gap in the order of
the fields; it fails exactly when there is one. -/
theorem strict_generation_refines_lenient (engine : PatternEngine) (catalog : Catalog)
    (id : String) (values : Variables) (proxy : String)
    (schemasFree : ∀ template ∈ catalog.templates, ∀ name ∈ template.schema.keys,
      BraceFree name.toList) :
    (∀ strict, generate engine catalog ⟨proxy, strict⟩ id values = .error (.templateNotFound id) ↔
      ∀ template ∈ catalog.templates, template.id ≠ id) ∧
    ∀ template ∈ catalog.templates, template.id = id →
      (∀ strict fault,
        generate engine catalog ⟨proxy, strict⟩ id values = .error (.invalidAttestation fault) ↔
          attestationInstant (values.find? Token.attestationTime) = .error fault) ∧
      (template.schema.PlacesFit → ∀ instant,
        attestationInstant (values.find? Token.attestationTime) = .ok instant →
        ∃ binding, Binding.make template.schema values proxy = .ok binding ∧
          (engine.admits binding = false → ∀ strict,
            generate engine catalog ⟨proxy, strict⟩ id values = .error .patternTooLarge) ∧
          (engine.admits binding = true → ∃ market,
            generate engine catalog ⟨proxy, false⟩ id values = .ok market ∧
            (generate engine catalog ⟨proxy, true⟩ id values = .ok market ∨
              ∃ shown label, generate engine catalog ⟨proxy, true⟩ id values =
                .error (.unresolvedPlaceholder shown label)) ∧
            (∀ shown label, generate engine catalog ⟨proxy, true⟩ id values =
                .error (.unresolvedPlaceholder shown label) ↔
              ∃ name, FirstGap binding template.fields label name ∧
                shown = String.ofList (token name.toList)) ∧
            ((∃ failure, generate engine catalog ⟨proxy, true⟩ id values = .error failure) ↔
              ∃ field ∈ template.fields, ∃ name ∈ namesOf field.2,
                binding.contains name = false))) := by
  refine ⟨fun strict => ?_, fun template listed same => ?_⟩
  · exact generate_eq_templateNotFound_iff.trans Catalog.find?_eq_none_iff
  · have found := Catalog.find?_eq_some_iff.2 ⟨listed, same⟩
    refine ⟨fun strict fault => generate_eq_invalidAttestation_iff found,
      fun fits instant parsed => ?_⟩
    let binding := Binding.atInstant instant template.schema values proxy
    have keysFree : ∀ key ∈ binding.keys, BraceFree key.toList :=
      Binding.keys_braceFree (schemasFree template listed)
    refine ⟨binding, Binding.make_of_fits fits parsed,
      fun refused strict => generate_of_refused found fits parsed refused, fun admitted => ?_⟩
    have ready : ∀ strict, generate engine catalog ⟨proxy, strict⟩ id values =
        ofTemplate ⟨binding, strict⟩ template :=
      fun strict => generate_of_ready found fits parsed admitted
    refine ⟨rendered ⟨binding, false⟩ template, ?_⟩
    rw [ready false, ready true]
    exact ⟨ofTemplate_lenient binding template, ofTemplate_strict_cases keysFree template,
      fun shown label => ofTemplate_strict_eq_error_iff keysFree template,
      ofTemplate_strict_fails_iff keysFree template⟩

/-- A template with two gaps among the parameters of its only source, a variable that need
not be given, and braces that make no placeholder. -/
def gapTemplate : Template where
  id := "gaps"
  name := "Gaps"
  description := ""
  category := ""
  image := ""
  schema := Dict.ofList [
    ("side", { Builtin.labelled .text "Side" false with fallback := some (.string "up") })]
  question := "\x7b\x7bside\x7d\x7b\x7bpriceFormatted\x7d\x7d at \x7b\x7battestationTime\x7d\x7d"
  resolution := "\x7b\x7b\x7d\x7d and \x7b\x7b"
  sources := [
    Builtin.sourceWith "prices" "\x7b\x7bapiProxyPrefix\x7d\x7d/prices"
      [("to", "\x7b\x7blater\x7d\x7d"), ("from", "\x7b\x7b\x7bearlier\x7d\x7d\x7d")]
      "\x7b\x7bearlier\x7d\x7d"]
  defaults := Builtin.defaults ["Yes", "No"] 66 5

/-- The catalog of the template with gaps. -/
def gapCatalog : Catalog := ⟨[gapTemplate], _, rfl⟩

/-- Variables that bind every computed token, at the first instant of 1970. -/
def gapValues : Variables :=
  Dict.ofList [
    ("attestationTime", .ofUInt32 0), ("price", .string "0.5"), ("goal", .ofUInt32 7)]

/-- Of the two gaps the one under the smaller parameter name is reported. -/
theorem strict_generation_reports_smaller_parameter :
    (∀ template ∈ gapCatalog.templates, ∀ name ∈ template.schema.keys, BraceFree name.toList) ∧
    (∃ market, generate .standard gapCatalog ⟨"", false⟩ "gaps" gapValues = .ok market) ∧
    generate .standard gapCatalog ⟨"", true⟩ "gaps" gapValues = .error
      (.unresolvedPlaceholder "\x7b\x7bearlier\x7d\x7d" "dataSources[0].queryParams.from") := by
  have schemasFree : ∀ template ∈ gapCatalog.templates, ∀ name ∈ template.schema.keys,
      BraceFree name.toList := by decide
  have fits : gapTemplate.schema.PlacesFit := by decide
  have parsed : attestationInstant (gapValues.find? Token.attestationTime) = .ok ⟨0, 0⟩ := rfl
  obtain ⟨binding, made, -, ready⟩ :=
    (strict_generation_refines_lenient .standard gapCatalog "gaps" gapValues "" schemasFree).2
      gapTemplate List.mem_cons_self rfl |>.2 fits _ parsed
  have same := Except.ok.inj (made.symm.trans (Binding.make_of_fits fits parsed))
  have admitted : PatternEngine.standard.admits binding = true := by
    rw [same]
    decide +kernel
  obtain ⟨market, lenient, -, gaps, -⟩ := ready admitted
  have gap : binding.firstGap? gapTemplate.fields =
      some ("dataSources[0].queryParams.from", "earlier") := by
    rw [same]
    decide +kernel
  exact ⟨schemasFree, ⟨market, lenient⟩,
    (gaps _ _).2 ⟨"earlier", Binding.firstGap?_eq_some_iff.1 gap, by decide +kernel⟩⟩

end Market

end PredictionMarket
