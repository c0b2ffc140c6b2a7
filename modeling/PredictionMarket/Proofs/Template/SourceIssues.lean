import PredictionMarket.Catalog.Builtin
import PredictionMarket.Template.Check

/-!
# Issues of data sources

An issue that names a position is an issue of the data source there
(`Template.mem_issues_iff_of_position?`). One of them is about the shape of the result: it is
missing exactly when the shape is a tuple of a single field `outcomeIdx` whose type begins with
`uint`. The types of unsigned integers begin so, with a width behind it or without. What else may
stand behind it is not looked at, so an array of unsigned integers passes the check as well.
-/

namespace PredictionMarket

/-- The position of the data source that an issue is about. -/
def Issue.position? : Issue → Option Nat
  | shapeNotOutcomeIndex position | outcomeOutOfRange position _ _ => some position
  | _ => none

section Positions

variable {issue : Issue} {position : Nat}

/-- The issues of a data source are about its position. -/
theorem DataSource.position?_of_mem_issues {source : DataSource} {declared place : Nat}
    (member : issue ∈ source.issues declared place) : issue.position? = some place := by
  rcases List.mem_append.1 member with shape | index
  · split at shape
    · cases shape
    · rw [List.mem_singleton.1 shape]
      rfl
  · obtain ⟨index, -, beyond⟩ := List.mem_filterMap.1 index
    split at beyond
    · cases beyond
      rfl
    · cases beyond

/-- The issues of market defaults are about no data source. -/
theorem MarketDefaults.position?_of_mem_issues {defaults : MarketDefaults}
    (member : issue ∈ defaults.issues) : issue.position? = none := by
  simp only [issues, List.mem_append, List.mem_map, List.mem_ite_nil_right, List.mem_singleton]
    at member
  rcases member with ((⟨-, rfl⟩ | ⟨order, -, rfl⟩) | ⟨-, rfl⟩) | ⟨-, rfl⟩ <;> rfl

/-- The issues of a declared variable are about no data source. -/
theorem Variable.position?_of_mem_issues {name : String} {declared : Variable}
    (member : issue ∈ declared.issues name) : issue.position? = none := by
  unfold Variable.issues at member
  split at member
  · cases member
  split at member
  · rw [List.mem_singleton.1 member]
    rfl
  split at member
  · split at member
    · cases member
    · rw [List.mem_singleton.1 member]
      rfl
  · cases member

/-- The issues of placeholders are about no data source. -/
theorem Template.position?_of_mem_placeholderIssues {template : Template}
    (member : issue ∈ template.placeholderIssues) : issue.position? = none := by
  obtain ⟨field, -, member⟩ := List.mem_flatMap.1 member
  obtain ⟨name, -, rfl⟩ := List.mem_map.1 member
  rfl

/-- An issue about a position is an issue of the data source there. -/
theorem Template.mem_issues_iff_of_position? {template : Template}
    (about : issue.position? = some position) :
    issue ∈ template.issues ↔ ∃ source, template.sources[position]? = some source ∧
      issue ∈ source.issues template.defaults.outcomes.length position := by
  have elsewhere : issue.position? ≠ none := by simp [about]
  have noDefaults : issue ∉ template.defaults.issues :=
    mt MarketDefaults.position?_of_mem_issues elsewhere
  have noVariables : issue ∉ template.variableIssues := fun member => by
    obtain ⟨entry, -, member⟩ := List.mem_flatMap.1 member
    exact elsewhere (Variable.position?_of_mem_issues member)
  have noPlaceholders : issue ∉ template.placeholderIssues :=
    mt Template.position?_of_mem_placeholderIssues elsewhere
  have sourced : issue ∉ if template.sources.isEmpty then [Issue.noSources] else [] := by
    rw [List.mem_ite_nil_right, List.mem_singleton]
    rintro ⟨-, rfl⟩
    exact elsewhere rfl
  simp only [Template.issues, Template.sourceIssues, List.mem_append, noDefaults, noVariables,
    noPlaceholders, sourced, false_or, List.mem_flatMap, Prod.exists, List.mem_zipIdx_iff_getElem?]
  constructor
  · rintro ⟨source, place, isSource, member⟩
    obtain rfl : place = position := by
      rw [DataSource.position?_of_mem_issues member] at about
      exact Option.some_inj.1 about
    exact ⟨source, isSource, member⟩
  · rintro ⟨source, isSource, member⟩
    exact ⟨source, position, isSource, member⟩

end Positions

/-- What may stand behind `uint` in the name of an unsigned integer type: nothing, or the width in
bits, which is one of 1 to 32 whole bytes. -/
def IsWidth (text : String) : Prop :=
  text = "" ∨ ∃ bits, 8 ≤ bits ∧ bits ≤ 256 ∧ 8 ∣ bits ∧ text = toString bits

instance (text : String) : Decidable (IsWidth text) :=
  decidable_of_iff
    (text = "" ∨ ∃ bits ∈ List.range 257, 8 ≤ bits ∧ 8 ∣ bits ∧ text = toString bits) <| by
    simp only [IsWidth, List.mem_range, Nat.lt_succ_iff, and_left_comm]

/-- A type is one of unsigned integers. -/
def IsUnsigned (type : String) : Prop := ∃ width, type = "uint" ++ width ∧ IsWidth width

/-- A type that begins like one of unsigned integers is one exactly when a width stands behind the
beginning. -/
theorem isUnsigned_append_iff {rest : String} : IsUnsigned ("uint" ++ rest) ↔ IsWidth rest := by
  constructor
  · rintro ⟨width, same, isWidth⟩
    rwa [(String.append_right_inj _).1 same]
  · exact fun isWidth => ⟨rest, rfl, isWidth⟩

namespace ResultShape

/-- A shape is a tuple of a single field, which is called `outcomeIdx` and has an allowed type. -/
def HoldsOutcome (Allowed : String → Prop) (shape : ResultShape) : Prop :=
  shape.type = "tuple" ∧
    ∃ field, shape.fields = [field] ∧ field.name = outcomeField ∧ Allowed field.type

/-- A shape passes as that of an outcome index exactly when its type begins with `uint`. -/
theorem isOutcomeIndex_iff {shape : ResultShape} :
    shape.isOutcomeIndex = true ↔ shape.HoldsOutcome fun type => ∃ rest, type = "uint" ++ rest := by
  have begins : ∀ type : String,
      "uint".toList.isPrefixOf type.toList = true ↔ ∃ rest, type = "uint" ++ rest := by
    intro type
    rw [List.isPrefixOf_iff_prefix]
    constructor
    · rintro ⟨rest, split⟩
      exact ⟨String.ofList rest, String.toList_inj.1 (by simp [← split])⟩
    · rintro ⟨rest, rfl⟩
      exact ⟨rest.toList, by simp⟩
  rw [isOutcomeIndex, HoldsOutcome, Bool.and_eq_true, beq_iff_eq]
  refine and_congr_right fun _ => ?_
  split
  · next field alone =>
    simp only [alone, List.cons.injEq, and_true, exists_eq_left', Bool.and_eq_true, beq_iff_eq,
      begins]
  · next other =>
    refine iff_of_false Bool.false_ne_true ?_
    rintro ⟨field, alone, -⟩
    exact other field alone

/-- A field of an unsigned integer type passes. -/
theorem HoldsOutcome.isOutcomeIndex {shape : ResultShape} (holds : shape.HoldsOutcome IsUnsigned) :
    shape.isOutcomeIndex = true := by
  obtain ⟨isTuple, field, alone, named, width, isType, -⟩ := holds
  exact isOutcomeIndex_iff.2 ⟨isTuple, field, alone, named, width, isType⟩

end ResultShape

/-- A data source has an issue about its shape exactly when the shape does not pass. -/
theorem DataSource.shapeNotOutcomeIndex_mem_issues_iff {source : DataSource}
    {declared place position : Nat} :
    .shapeNotOutcomeIndex position ∈ source.issues declared place ↔
      place = position ∧ source.shape.isOutcomeIndex = false := by
  simp only [issues, List.mem_append, List.mem_filterMap, Option.ite_none_right_eq_some,
    Option.some_inj, reduceCtorEq, and_false, exists_false, or_false]
  cases source.shape.isOutcomeIndex <;> simp [eq_comm]

/-- A template has an issue about a shape exactly when the shape of the source there does not
pass. -/
theorem Template.shapeNotOutcomeIndex_mem_issues_iff {template : Template} {position : Nat} :
    .shapeNotOutcomeIndex position ∈ template.issues ↔
      ∃ source, template.sources[position]? = some source ∧
        source.shape.isOutcomeIndex = false := by
  rw [Template.mem_issues_iff_of_position? rfl]
  simp only [DataSource.shapeNotOutcomeIndex_mem_issues_iff, true_and]

/-- In a template without issues the shape of every data source passes. -/
theorem Template.isOutcomeIndex_of_issues_eq_nil {template : Template} {source : DataSource}
    (clean : template.issues = []) (listed : source ∈ template.sources) :
    source.shape.isOutcomeIndex = true := by
  obtain ⟨position, isSource⟩ := List.mem_iff_getElem?.1 listed
  rw [← Bool.not_eq_false]
  intro fails
  have reported : .shapeNotOutcomeIndex position ∈ template.issues :=
    Template.shapeNotOutcomeIndex_mem_issues_iff.2 ⟨source, isSource, fails⟩
  rw [clean] at reported
  cases reported

/-- In a template without issues every result is a tuple of a single field `outcomeIdx` whose type
begins with `uint`, and it is an unsigned integer exactly when a width, or nothing, stands behind
that. A data source is reported exactly when its result has no such form, so no unsigned integer
is. -/
theorem Template.checked_results_begin_unsigned (template : Template) :
    (template.issues = [] → ∀ source ∈ template.sources, ∃ field rest,
      source.shape.type = "tuple" ∧ source.shape.fields = [field] ∧ field.name = "outcomeIdx" ∧
        field.type = "uint" ++ rest ∧ (source.shape.HoldsOutcome IsUnsigned ↔ IsWidth rest)) ∧
    (∀ position, .shapeNotOutcomeIndex position ∈ template.issues ↔
      ∃ source, template.sources[position]? = some source ∧
        ¬ source.shape.HoldsOutcome fun type => ∃ rest, type = "uint" ++ rest) ∧
    ∀ position source, template.sources[position]? = some source →
      source.shape.HoldsOutcome IsUnsigned → .shapeNotOutcomeIndex position ∉ template.issues := by
  refine ⟨fun clean source listed => ?_, fun position => ?_,
    fun position source isSource holds reported => ?_⟩
  · obtain ⟨isTuple, field, alone, named, rest, begins⟩ :=
      ResultShape.isOutcomeIndex_iff.1 (Template.isOutcomeIndex_of_issues_eq_nil clean listed)
    refine ⟨field, rest, isTuple, alone, named, begins, ?_⟩
    rw [← isUnsigned_append_iff, ← begins]
    constructor
    · rintro ⟨-, other, isOther, -, unsigned⟩
      rw [alone, List.cons.injEq] at isOther
      rwa [isOther.1]
    · exact fun unsigned => ⟨isTuple, field, alone, named, unsigned⟩
  · simp only [Template.shapeNotOutcomeIndex_mem_issues_iff, ← ResultShape.isOutcomeIndex_iff,
      Bool.not_eq_true]
  · obtain ⟨other, isOther, fails⟩ := Template.shapeNotOutcomeIndex_mem_issues_iff.1 reported
    cases Option.some_inj.1 (isSource.symm.trans isOther)
    rw [holds.isOutcomeIndex] at fails
    cases fails

/-- A template with two outcomes whose data sources declare results of some types. -/
def typedTemplate (types : List String) : Template where
  id := "typed"
  name := "Typed"
  description := ""
  category := ""
  image := ""
  schema := Dict.empty
  question := "Up?"
  resolution := "The last price."
  sources := types.map fun type =>
    { Builtin.source "prices" "/prices" "if .up then 0 else 1 end" with
      shape := { ResultShape.outcomeIndex with fields := [⟨type, "outcomeIdx", type⟩] } }
  defaults := Builtin.defaults ["Yes", "No"] 66 5

/-- Unsigned integers without a width, and with the least and the greatest width, pass the check
and are recognised; a signed integer between them does not pass. -/
theorem unsigned_results_are_checked :
    (typedTemplate ["uint", "uint8", "uint256"]).issues = [] ∧
    (∀ source ∈ (typedTemplate ["uint", "uint8", "uint256"]).sources,
      source.shape.HoldsOutcome IsUnsigned) ∧
    .shapeNotOutcomeIndex 1 ∈ (typedTemplate ["uint", "int8", "uint256"]).issues := by
  have clean : (typedTemplate ["uint", "uint8", "uint256"]).issues = [] := by decide +kernel
  refine ⟨clean, fun source listed => ?_, by decide +kernel⟩
  obtain ⟨field, rest, -, alone, -, begins, unsigned⟩ :=
    (Template.checked_results_begin_unsigned _).1 clean source listed
  have widths : ∀ source ∈ (typedTemplate ["uint", "uint8", "uint256"]).sources,
      ∀ field ∈ source.shape.fields, field.type = "uint" ++ "" ∨ field.type = "uint" ++ "8" ∨
        field.type = "uint" ++ "256" := by decide +kernel
  refine unsigned.2 ?_
  have shown := widths source listed field (alone ▸ List.mem_singleton_self field)
  rw [begins, String.append_right_inj, String.append_right_inj, String.append_right_inj] at shown
  rcases shown with rfl | rfl | rfl <;> decide +kernel

/-- An array of unsigned integers is no unsigned integer, and the check passes it. -/
theorem array_of_unsigned_passes :
    (typedTemplate ["uint256[]"]).issues = [] ∧
    ∃ source ∈ (typedTemplate ["uint256[]"]).sources,
      ¬ source.shape.HoldsOutcome IsUnsigned := by
  have noWidth : ¬ IsUnsigned "uint256[]" := by
    have written : "uint256[]" = "uint" ++ "256[]" := by decide +kernel
    rw [written, isUnsigned_append_iff]
    decide +kernel
  refine ⟨by decide +kernel, _, List.mem_singleton_self _, ?_⟩
  rintro ⟨-, field, alone, -, unsigned⟩
  obtain ⟨rfl, -⟩ := List.cons.inj alone
  exact noWidth unsigned

end PredictionMarket
