import PredictionMarket.Proofs.Generation.Authoring
import PredictionMarket.Proofs.Json.Amount

/-!
# Complete templates

A template is complete when its fields and its schema fit each other: the fields mention no
token that may be missing once the required variables are given, and they mention every
required variable, every declared price and every declared goal. What the schema declares is
within the limits: the grouped numbers have not too many places, and every engine compiles the
pattern of the keys, because these are few and short. Strict generation from a
complete template succeeds for exactly the variables that give what is required. The
built-in templates are complete.
-/

namespace PredictionMarket

open Placeholder (BraceFree names namesOf)

/-- A finite numeric value: a number, or a text that is, between any blanks, a decimal
literal of a finite number. -/
def Json.IsNumeric : Json → Prop
  | number _ => True
  | string text => ∃ literal, Decimal.Literal.ofText? (Text.trim text.toList) = some literal ∧
      ∃ amount, literal.double? = some amount
  | _ => False

/-- Numeric values are those that are amounts. -/
theorem Json.isSome_amount?_iff {value : Json} :
    value.amount?.isSome = true ↔ value.IsNumeric := by
  cases value with
  | number number =>
    obtain ⟨amount, isAmount⟩ := number.exists_toDouble?
    simp [amount?, isAmount, IsNumeric]
  | string text =>
    simp only [amount?, IsNumeric, Option.isSome_iff_exists, Option.bind_eq_some_iff]
    constructor
    · rintro ⟨amount, literal, read, finite⟩
      exact ⟨literal, read, amount, finite⟩
    · rintro ⟨literal, read, amount, finite⟩
      exact ⟨amount, literal, read, finite⟩
  | _ => simp [amount?, IsNumeric]

/-- Whether a variable is declared and has to be given. -/
def Template.requires (template : Template) (name : String) : Bool :=
  (template.schema.find? name).any fun declared => declared.required

/-- Whether a variable is declared with a default that can be shown. -/
def Template.defaults? (template : Template) (name : String) : Bool :=
  (template.schema.find? name).any fun declared =>
    declared.fallback.any fun value => !value.isNull

/-- The tokens that the fields of a template mention. -/
def Template.mentions (template : Template) : List String :=
  template.fields.flatMap fun field => namesOf field.2

/-- The tokens that every binding has, once the required variables are given. -/
def Template.supplies (template : Template) : List String :=
  Token.unconditional ++
    (template.schema.keys.filter fun name =>
      template.requires name || template.defaults? name) ++
    (groupedVariables.filter fun pair => template.requires pair.1).map (·.2)

/-- The tokens that a binding lacks as long as something that is required is not given: the
required variables but the attestation time, and the grouped forms of declared numbers. -/
def Template.needs (template : Template) : List String :=
  (template.schema.keys.filter fun name =>
      template.requires name && name != Token.attestationTime) ++
    (groupedVariables.filter fun pair => template.schema.contains pair.1).map (·.2)

/-- The fields and the schema of a template fit each other. -/
structure Template.Complete (template : Template) : Prop where
  schemaFree : ∀ name ∈ template.schema.keys, BraceFree name.toList
  /-- The attestation time is one of the required variables. -/
  dated : template.requires Token.attestationTime = true
  supplied : ∀ name ∈ template.mentions, name ∈ template.supplies
  needed : ∀ name ∈ template.needs, name ∈ template.mentions
  /-- Nothing else binds the name of a required variable. -/
  unshared : ∀ name ∈ template.schema.keys, template.requires name = true →
    name ≠ Token.attestationTime → name ∉ Token.computed ∧
      ((template.schema.find? name).bind Variable.fallback).isNone = true
  /-- A declared price or goal is required, and nothing else binds its grouped form. -/
  grouped : ∀ pair ∈ groupedVariables, pair.1 ∈ template.schema.keys →
    template.requires pair.1 = true ∧ pair.2 ∉ template.schema.keys
  fits : template.schema.PlacesFit
  /-- The declared and the computed tokens are short enough for every engine. -/
  ample : alternationSize (template.schema.keys ++ Token.computed) ≤ ampleSize

/-- The variables give what a template requires: every required variable but the attestation
time is there and not `null`, and a declared price or goal is numeric. -/
structure Template.Given (template : Template) (values : Variables) : Prop where
  present : ∀ name, template.requires name = true → name ≠ Token.attestationTime →
    ∃ value, values.find? name = some value ∧ value.isNull = false
  numeric : ∀ pair ∈ groupedVariables, pair.1 ∈ template.schema.keys →
    ∃ value, values.find? pair.1 = some value ∧ value.IsNumeric

namespace Template

variable {template : Template} {values : Variables} {name : String}

/-- What a required variable is. -/
theorem requires_iff :
    template.requires name = true ↔
      ∃ declared, template.schema.find? name = some declared ∧ declared.required = true :=
  Option.any_eq_true _ _

/-- A required variable is declared. -/
theorem mem_keys_of_requires (required : template.requires name = true) :
    name ∈ template.schema.keys := by
  obtain ⟨declared, found, -⟩ := requires_iff.1 required
  exact Dict.mem_keys_of_find? found

/-- A variable with a default is declared. -/
theorem mem_keys_of_defaults? (hasDefault : template.defaults? name = true) :
    name ∈ template.schema.keys := by
  obtain ⟨declared, found, -⟩ := (Option.any_eq_true _ _).1 hasDefault
  exact Dict.mem_keys_of_find? found

/-- A token is supplied unconditionally, or as a required variable, or as one with a default,
or as the grouped form of a required number. -/
theorem mem_supplies :
    name ∈ template.supplies ↔ name ∈ Token.unconditional ∨ template.requires name = true ∨
      template.defaults? name = true ∨
        ∃ pair ∈ groupedVariables, template.requires pair.1 = true ∧ pair.2 = name := by
  simp only [supplies, List.mem_append, List.mem_filter, Bool.or_eq_true, List.mem_map, or_assoc,
    and_assoc]
  have declared : template.requires name = true ∨ template.defaults? name = true →
      name ∈ template.schema.keys := fun either =>
    either.elim mem_keys_of_requires mem_keys_of_defaults?
  tauto

/-- A token is needed as a required variable, or as the grouped form of a declared number. -/
theorem mem_needs :
    name ∈ template.needs ↔
      (template.requires name = true ∧ name ≠ Token.attestationTime) ∨
        ∃ pair ∈ groupedVariables, pair.1 ∈ template.schema.keys ∧ pair.2 = name := by
  simp only [needs, List.mem_append, List.mem_filter, Bool.and_eq_true, bne_iff_ne, List.mem_map,
    Dict.contains_iff, and_assoc]
  have declared : template.requires name = true → name ∈ template.schema.keys :=
    mem_keys_of_requires
  tauto

/-- What is given can be shown. -/
theorem Given.hasRendering (given : template.Given values)
    (required : template.requires name = true) (notTime : name ≠ Token.attestationTime) :
    HasRendering template.schema values name :=
  .inl (given.present name required notTime)

/-- A default can be shown. -/
theorem hasRendering_of_defaults? (hasDefault : template.defaults? name = true) :
    HasRendering template.schema values name := by
  obtain ⟨declared, found, hasFallback⟩ := (Option.any_eq_true _ _).1 hasDefault
  obtain ⟨value, fallback, notNull⟩ := (Option.any_eq_true _ _).1 hasFallback
  exact .inr ⟨declared, value, found, fallback, by simpa using notNull⟩

end Template

namespace Binding

variable {schema : Schema} {values : Variables} {instant : Calendar.Instant} {proxy : String}

/-- What is read of a variable without a default is read of the value that is given. -/
theorem exists_given {α : Type} {read : Json → Option α} {name : String}
    (noDefault : (schema.find? name).bind Variable.fallback = none)
    (isRead : ((declaredValue schema values name).bind read).isSome = true) :
    ∃ value, values.find? name = some value ∧ value.isNull = false ∧
      (read value).isSome = true := by
  rw [declaredValue, noDefault, Option.or_none] at isRead
  obtain ⟨result, isRead⟩ := Option.isSome_iff_exists.1 isRead
  obtain ⟨value, isGiven, shown⟩ := Option.bind_eq_some_iff.1 isRead
  obtain ⟨found, notNull⟩ := given_eq_some_iff.1 isGiven
  exact ⟨value, found, notNull, Option.isSome_iff_exists.2 ⟨result, shown⟩⟩

/-- A value that is given and not `null` is the declared value. -/
theorem declaredValue_of_given {name : String} {value : Json}
    (found : values.find? name = some value) (notNull : value.isNull = false) :
    declaredValue schema values name = some value := by
  rw [declaredValue, given_eq_some_iff.2 ⟨found, notNull⟩, Option.some_or]

/-- Unless it is declared, the token of a grouped number is bound when the variable is an
amount. -/
theorem contains_groupedVariable {pair : String × String} (isGrouped : pair ∈ groupedVariables)
    (undeclared : pair.2 ∉ schema.keys) :
    (atInstant instant schema values proxy).contains pair.2 = true ↔
      ((declaredValue schema values pair.1).bind Json.amount?).isSome = true := by
  rw [contains_atInstant]
  simp only [groupedVariables, List.mem_cons, List.not_mem_nil, or_false] at isGrouped
  have computedOnly : pair.2 ∉ Token.unconditional := by
    rcases isGrouped with rfl | rfl <;> decide
  have different : Token.priceFormatted ≠ Token.goalFormatted := by decide
  rcases isGrouped with rfl | rfl
  · simp [undeclared, computedOnly, different]
  · simp [undeclared, computedOnly, different.symm]

end Binding

namespace Template.Complete

variable {template : Template} {values : Variables} {instant : Calendar.Instant}
  {proxy : String}

/-- What is given lets a binding have every token that is mentioned. -/
theorem contains_of_given (complete : template.Complete) (given : template.Given values) :
    ∀ name ∈ template.mentions,
      (Binding.atInstant instant template.schema values proxy).contains name = true := by
  intro name isMentioned
  by_cases always : name ∈ Token.unconditional
  · exact Binding.contains_atInstant.2 (.inr (.inl always))
  have notTime : name ≠ Token.attestationTime := by
    rintro rfl
    exact always (by decide)
  rcases mem_supplies.1 (complete.supplied name isMentioned) with
    always' | required | hasDefault | ⟨pair, isGrouped, required, rfl⟩
  · exact absurd always' always
  · exact Binding.contains_atInstant.2 (.inl ⟨mem_keys_of_requires required,
      Binding.isSome_text_of_hasRendering (given.hasRendering required notTime)⟩)
  · exact Binding.contains_atInstant.2 (.inl ⟨mem_keys_of_defaults? hasDefault,
      Binding.isSome_text_of_hasRendering (hasRendering_of_defaults? hasDefault)⟩)
  · have declared := mem_keys_of_requires required
    obtain ⟨value, found, numeric⟩ := given.numeric pair isGrouped declared
    have notNull : value.isNull = false := by
      cases value with
      | null => exact False.elim numeric
      | _ => rfl
    rw [Binding.contains_groupedVariable isGrouped (complete.grouped pair isGrouped declared).2,
      Binding.declaredValue_of_given found notNull]
    exact Json.isSome_amount?_iff.2 numeric

/-- A binding has every token that is mentioned only if what is required is given. -/
theorem given_of_contains (complete : template.Complete)
    (bound : ∀ name ∈ template.mentions,
      (Binding.atInstant instant template.schema values proxy).contains name = true) :
    template.Given values where
  present name required notTime := by
    obtain ⟨notComputed, noDefault⟩ :=
      complete.unshared name (mem_keys_of_requires required) required notTime
    have isMentioned := complete.needed name (mem_needs.2 (.inl ⟨required, notTime⟩))
    rw [Token.mem_computed_iff, not_or, not_or] at notComputed
    rcases Binding.contains_atInstant.1 (bound name isMentioned) with
      ⟨-, shown⟩ | always | ⟨price, -⟩ | ⟨goal, -⟩
    · obtain ⟨value, found, notNull, -⟩ :=
        Binding.exists_given (Option.isNone_iff_eq_none.1 noDefault) shown
      exact ⟨value, found, notNull⟩
    · exact absurd always notComputed.1
    · exact absurd price notComputed.2.1
    · exact absurd goal notComputed.2.2
  numeric pair isGrouped declared := by
    obtain ⟨required, undeclared⟩ := complete.grouped pair isGrouped declared
    have isMentioned := complete.needed pair.2 (mem_needs.2 (.inr ⟨pair, isGrouped, declared, rfl⟩))
    have notTime : pair.1 ≠ Token.attestationTime := by
      have all : ∀ pair ∈ groupedVariables, pair.1 ≠ Token.attestationTime := by decide
      exact all pair isGrouped
    obtain ⟨-, noDefault⟩ := complete.unshared pair.1 declared required notTime
    obtain ⟨value, found, -, amount⟩ := Binding.exists_given (Option.isNone_iff_eq_none.1 noDefault)
      ((Binding.contains_groupedVariable isGrouped undeclared).1 (bound pair.2 isMentioned))
    exact ⟨value, found, Json.isSome_amount?_iff.1 amount⟩

/-- What is required is given, too, by variables that agree on the required ones. -/
theorem given_of_same (complete : template.Complete) {others : Variables}
    (same : ∀ name, template.requires name = true → others.find? name = values.find? name)
    (given : template.Given values) : template.Given others where
  present name required notTime := by
    rw [same name required]
    exact given.present name required notTime
  numeric pair isGrouped declared := by
    rw [same pair.1 (complete.grouped pair isGrouped declared).1]
    exact given.numeric pair isGrouped declared

/-- Strict rendering of a complete template succeeds exactly when what is required is
given. -/
theorem strict_succeeds_iff (complete : template.Complete) :
    (∃ market, Market.ofTemplate
        ⟨Binding.atInstant instant template.schema values proxy, true⟩ template = .ok market) ↔
      template.Given values := by
  rw [Market.ofTemplate_strict (Binding.keys_braceFree complete.schemaFree)]
  have noGap : (Binding.atInstant instant template.schema values proxy).firstGap?
      template.fields = none ↔ template.Given values := by
    rw [Binding.firstGap?_eq_none_iff]
    constructor
    · intro bound
      have mentioned : ∀ name ∈ template.mentions,
          (Binding.atInstant instant template.schema values proxy).contains name = true := by
        intro name isMentioned
        obtain ⟨field, listed, inField⟩ := List.mem_flatMap.1 isMentioned
        exact bound field listed name inField
      exact complete.given_of_contains mentioned
    · exact fun given field listed name inField =>
        complete.contains_of_given given name (List.mem_flatMap.2 ⟨field, listed, inField⟩)
  rw [← noGap]
  cases (Binding.atInstant instant template.schema values proxy).firstGap? template.fields <;>
    simp [Failure.settle]

end Template.Complete

namespace Template

/-- The names that the texts of a data source mention. -/
def spelledIn (source : DataSource) : List (List Char) :=
  names source.endpoint.toList ++
    (source.queryEntries.flatMap fun entry => names entry.2.toList) ++ names source.rule.toList

/-- The mentioned tokens are the names that stand in the prose and in the data sources. -/
theorem mentions_eq (template : Template) :
    template.mentions = (names template.question.toList ++
      (names template.resolution.toList ++ template.sources.flatMap spelledIn)).map
        String.ofList := by
  have inSource : ∀ source : DataSource × Nat,
      ((source.1.fields source.2).flatMap fun field => namesOf field.2) =
        (spelledIn source.1).map String.ofList := by
    intro source
    simp [DataSource.fields, spelledIn, namesOf, List.flatMap_map, List.map_flatMap]
  have inSources : ((template.sources.zipIdx.flatMap fun source =>
      source.1.fields source.2).flatMap fun field => namesOf field.2) =
        (template.sources.flatMap spelledIn).map String.ofList :=
    calc ((template.sources.zipIdx.flatMap fun source => source.1.fields source.2).flatMap
          fun field => namesOf field.2)
        = template.sources.zipIdx.flatMap fun source =>
            (spelledIn source.1).map String.ofList := by simp only [List.flatMap_assoc, inSource]
      _ = (template.sources.zipIdx.map Prod.fst).flatMap fun source =>
            (spelledIn source).map String.ofList :=
          (List.flatMap_map Prod.fst (fun source => (spelledIn source).map String.ofList) _).symm
      _ = (template.sources.flatMap spelledIn).map String.ofList := by
        rw [List.zipIdx_map_fst, List.map_flatMap]
  rw [mentions, fields, List.flatMap_cons, List.flatMap_cons, inSources, List.map_append,
    List.map_append]
  rfl

end Template

/-- Names are as they are spelled. -/
theorem mem_map_ofList {name : String} {spelled : List (List Char)} :
    name ∈ spelled.map String.ofList ↔ name.toList ∈ spelled := by
  constructor
  · intro member
    obtain ⟨chars, isSpelled, rfl⟩ := List.mem_map.1 member
    rwa [String.toList_ofList]
  · exact fun isSpelled => List.mem_map.2 ⟨name.toList, isSpelled, String.ofList_toList⟩

namespace Catalog

/-- The fields and the schema of every built-in template fit each other. -/
theorem supplies_needs_of_builtin {template : Template}
    (listed : template ∈ builtin.templates) :
    (∀ name ∈ template.mentions, name ∈ template.supplies) ∧
      ∀ name ∈ template.needs, name ∈ template.mentions := by
  have spelled : (∀ chars ∈ names template.question.toList ++
      (names template.resolution.toList ++ template.sources.flatMap Template.spelledIn),
        chars ∈ template.supplies.map String.toList) ∧
      ∀ name ∈ template.needs, name.toList ∈ names template.question.toList ++
        (names template.resolution.toList ++ template.sources.flatMap Template.spelledIn) := by
    generalize isSupplied : template.supplies.map String.toList = supplied
    generalize isNeeded : template.needs = needed
    have cases : template = Builtin.flrPrice ∨ template = Builtin.cryptoPrice ∨
        template = Builtin.tvlGoal ∨ template = Builtin.footballMatchWinner ∨
        template = Builtin.esportsMatchWinner := by
      simpa only [builtin, Builtin.templates, List.mem_cons, List.not_mem_nil, or_false]
        using listed
    clear listed
    rcases cases with rfl | rfl | rfl | rfl | rfl
    -- The texts become lists of characters before they are searched: a long text that is
    -- put together from parts is slow to take apart by evaluation alone.
    all_goals
      simp only [Builtin.flrPrice, Builtin.cryptoPrice, Builtin.tvlGoal,
        Builtin.footballMatchWinner, Builtin.esportsMatchWinner, Builtin.sourceWith,
        Builtin.source, Template.spelledIn, List.flatMap_cons, List.flatMap_nil]
    -- The two price templates share their rules.
    case' inl | inr.inl => unfold Builtin.pricePointsRule Builtin.lastMinuteRule
    all_goals
      simp only [String.toList_append]
      repeat rw [String.toList_ofList]
      subst isSupplied isNeeded
      decide +kernel
  rw [Template.mentions_eq]
  refine ⟨fun name isMentioned => ?_, fun name isNeeded => ?_⟩
  · obtain ⟨known, isSupplied, same⟩ :=
      List.mem_map.1 (spelled.1 _ (mem_map_ofList.1 isMentioned))
    rwa [← String.toList_injective same]
  · exact mem_map_ofList.2 (spelled.2 name isNeeded)

/-- Every built-in template is complete. -/
theorem complete_of_builtin {template : Template} (listed : template ∈ builtin.templates) :
    template.Complete := by
  have schemasFree : ∀ template ∈ builtin.templates, ∀ name ∈ template.schema.keys,
      BraceFree name.toList := by decide +kernel
  have dated : ∀ template ∈ builtin.templates,
      template.requires Token.attestationTime = true := by decide +kernel
  have unshared : ∀ template ∈ builtin.templates, ∀ name ∈ template.schema.keys,
      template.requires name = true → name ≠ Token.attestationTime →
        name ∉ Token.computed ∧
          ((template.schema.find? name).bind Variable.fallback).isNone = true := by
    decide +kernel
  have grouped : ∀ template ∈ builtin.templates, ∀ pair ∈ groupedVariables,
      pair.1 ∈ template.schema.keys →
        template.requires pair.1 = true ∧ pair.2 ∉ template.schema.keys := by decide +kernel
  have fits : ∀ template ∈ builtin.templates, template.schema.PlacesFit := by decide +kernel
  have ample : ∀ template ∈ builtin.templates,
      alternationSize (template.schema.keys ++ Token.computed) ≤ ampleSize := by decide +kernel
  obtain ⟨supplied, needed⟩ := supplies_needs_of_builtin listed
  exact ⟨schemasFree template listed, dated template listed, supplied, needed,
    unshared template listed, grouped template listed, fits template listed,
    ample template listed⟩

end Catalog

namespace Market

/-- Strict generation from a complete template of a catalog succeeds exactly when the
attestation value denotes an instant and what is required is given. -/
theorem strict_generation_succeeds_iff (engine : PatternEngine) {catalog : Catalog}
    {template : Template} (listed : template ∈ catalog.templates) (complete : template.Complete)
    (values : Variables) (proxy : String) :
    (∃ market, generate engine catalog ⟨proxy, true⟩ template.id values = .ok market) ↔
      (∃ instant, attestationInstant (values.find? Token.attestationTime) = .ok instant) ∧
        template.Given values := by
  have found : catalog.find? template.id = some template :=
    Catalog.find?_eq_some_iff.2 ⟨listed, rfl⟩
  cases parsed : attestationInstant (values.find? Token.attestationTime) with
  | error fault => simp [generate_of_fault found parsed]
  | ok instant =>
    rw [generate_of_ready found complete.fits parsed
      (engine.admits_atInstant complete.ample instant values proxy), complete.strict_succeeds_iff]
    simp

/-- What the built-in templates need. For every built-in template, all variables and every
proxy, strict generation succeeds exactly when the attestation value denotes an instant,
every other required variable is there and not `null`, and a declared price or goal is
numeric, whatever the engine is. So variables that agree on the required ones succeed or fail
together: what is optional or not declared never makes generation fail. -/
theorem strict_generation_of_builtin (engine : PatternEngine) (template : Template)
    (listed : template ∈ Catalog.builtin.templates) (values : Variables) (proxy : String) :
    ((∃ market, generate engine Catalog.builtin ⟨proxy, true⟩ template.id values = .ok market) ↔
      (∃ instant, attestationInstant (values.find? Token.attestationTime) = .ok instant) ∧
      (∀ name declared, template.schema.find? name = some declared →
        declared.required = true → name ≠ Token.attestationTime →
          ∃ value, values.find? name = some value ∧ value.isNull = false) ∧
      ∀ name, name = "price" ∨ name = "goal" → name ∈ template.schema.keys →
        ∃ value, values.find? name = some value ∧ value.IsNumeric) ∧
    ∀ others : Variables,
      (∀ name declared, template.schema.find? name = some declared → declared.required = true →
        others.find? name = values.find? name) →
      ((∃ market, generate engine Catalog.builtin ⟨proxy, true⟩ template.id others = .ok market) ↔
        ∃ market,
          generate engine Catalog.builtin ⟨proxy, true⟩ template.id values = .ok market) := by
  have complete := Catalog.complete_of_builtin listed
  constructor
  · rw [strict_generation_succeeds_iff engine listed complete]
    refine and_congr Iff.rfl ?_
    constructor
    · intro given
      refine ⟨fun name declared found required notTime => ?_, fun name either isDeclared => ?_⟩
      · exact given.present name (Template.requires_iff.2 ⟨declared, found, required⟩) notTime
      · rcases either with rfl | rfl
        · exact given.numeric ("price", Token.priceFormatted) (by decide) isDeclared
        · exact given.numeric ("goal", Token.goalFormatted) (by decide) isDeclared
    · rintro ⟨present, numeric⟩
      refine ⟨fun name required notTime => ?_, fun pair isGrouped isDeclared => ?_⟩
      · obtain ⟨declared, found, isRequired⟩ := Template.requires_iff.1 required
        exact present name declared found isRequired notTime
      · have either : ∀ pair ∈ groupedVariables, pair.1 = "price" ∨ pair.1 = "goal" := by decide
        exact numeric pair.1 (either pair isGrouped) isDeclared
  · intro others agree
    have same : ∀ name, template.requires name = true → others.find? name = values.find? name :=
      fun name required => by
        obtain ⟨declared, found, isRequired⟩ := Template.requires_iff.1 required
        exact agree name declared found isRequired
    rw [strict_generation_succeeds_iff engine listed complete,
      strict_generation_succeeds_iff engine listed complete, same _ complete.dated]
    exact and_congr Iff.rfl ⟨complete.given_of_same fun name required => (same name required).symm,
      complete.given_of_same same⟩

/-- What a goal for the value of a protocol needs, with a goal in words of its own spelling and
with entries that no template reads. -/
def goalValues (goal : String) : Variables :=
  Dict.ofList [
    ("attestationTime", .string "2025-02-20"),
    ("protocol", .string "sky"),
    ("protocolName", .number (.integer ⟨7, by decide, by decide⟩)),
    ("goal", .string goal),
    ("price", .array []),
    ("comparisonType", .null)]

/-- A goal in scientific notation is numeric, a goal in words is not; a price that the template
does not declare may be an array. -/
theorem strict_generation_of_goal :
    Builtin.tvlGoal ∈ Catalog.builtin.templates ∧
    (∃ market, generate .standard Catalog.builtin ⟨"/proxy", true⟩ Builtin.tvlGoal.id
      (goalValues " 1e9 ") = .ok market) ∧
    ¬ ∃ market, generate .standard Catalog.builtin ⟨"/proxy", true⟩ Builtin.tvlGoal.id
      (goalValues "a billion") = .ok market := by
  have listed : Builtin.tvlGoal ∈ Catalog.builtin.templates := by
    simp [Catalog.builtin, Builtin.templates]
  refine ⟨listed, ?_, fun succeeds => ?_⟩
  · refine (strict_generation_of_builtin .standard Builtin.tvlGoal listed _ "/proxy").1.2
      ⟨⟨⟨1740009600, 0⟩, ?_⟩, fun name declared found _ notTime => ?_,
        fun name either isDeclared => ?_⟩
    · have read : Calendar.Instant.ofText? (Text.trim "2025-02-20".toList) =
          some ⟨1740009600, 0⟩ := by decide +kernel
      change attestationInstant (some (.string "2025-02-20")) = _
      rw [attestationInstant, read]
      rfl
    · have present : ∀ name ∈ Builtin.tvlGoal.schema.keys,
          ((goalValues " 1e9 ").find? name).any (fun value => !value.isNull) = true := by
        decide +kernel
      obtain ⟨value, isGiven, notNull⟩ :=
        (Option.any_eq_true _ _).1 (present name (Dict.mem_keys_of_find? found))
      exact ⟨value, isGiven, by simpa using notNull⟩
    · have goalOnly : "price" ∉ Builtin.tvlGoal.schema.keys := by decide +kernel
      rcases either with rfl | rfl
      · exact absurd isDeclared goalOnly
      · exact ⟨.string " 1e9 ", rfl, Json.isSome_amount?_iff.1 (by decide +kernel)⟩
  · obtain ⟨value, found, numeric⟩ :=
      ((strict_generation_of_builtin .standard Builtin.tvlGoal listed _ "/proxy").1.1 succeeds).2.2
        "goal" (.inr rfl) (by decide +kernel)
    have inWords : (Json.string "a billion").amount?.isSome = false := by decide +kernel
    cases Option.some.inj (found.symm.trans rfl : some value = some (.string "a billion"))
    rw [Json.isSome_amount?_iff.2 numeric] at inWords
    cases inWords

end Market

end PredictionMarket
