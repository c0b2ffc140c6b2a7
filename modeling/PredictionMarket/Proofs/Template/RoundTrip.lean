import PredictionMarket.Proofs.Template.Arrangement
import PredictionMarket.Proofs.Template.Origin

/-!
# Templates written and read

Every record of a template has a layout. Its reader sees the settled members of an object and
nothing else, its writer writes settled members, and what was read and is written is read again
as the same record (`FollowsLayout`). A body or a default that is `null` is the one thing that a
record may hold and does not get back: it is read as absent, so it never comes out of a reader.
-/

namespace PredictionMarket

open Datum

/-- What stays as it is in an arrangement holds nothing else, and a value that is read where one
may be absent is not `null`. -/
theorem Arrangement.nesting (arrangement : Arrangement) :
    Nesting (fun _ value => arrangement.apply value = value)
      fun _ value => value ≠ .null ∧ arrangement.apply value = value where
  members {_ value _} kept isMembers := by
    cases value with
    | object =>
      cases isMembers
      exact arrangement.inside _ kept
    | _ => cases isMembers
  record {_ value fields _} kept isRecord := by
    cases value with
    | object =>
      cases isRecord
      exact arrangement.inside _ kept
    | array values =>
      obtain ⟨-, same⟩ := Option.ite_some_none_eq_some.1 isRecord
      rw [← same]
      exact fun member listed => arrangement.kept_of_mem kept (List.of_mem_zip listed).2
    | _ => cases isRecord
  elements {_ value _} kept isElements := by
    cases value with
    | array elements =>
      cases isElements
      exact fun element listed => arrangement.kept_of_mem kept listed
    | _ => cases isElements
  json {_ value _ _} kept isPresent isRead := by
    cases Option.some.inj isRead
    cases value with
    | null => cases isPresent
    | _ =>
      cases isPresent
      exact ⟨nofun, kept⟩
  refuse returned := by cases returned

/-- The reader and the writer of a record agree on its layout. -/
structure FollowsLayout {α : Type} (read : Json → Option α) (write : α → Json) (layout : Layout) :
    Prop where
  /-- What is read of an object is read of its settled members: unknown fields are dropped,
  `null` says that an optional field is absent, and defaults stand in for other fields. -/
  read_settled : ∀ members, read (.object (layout.settled members)) = read (.object members)
  /-- The values of the fields in their order, up to the last one given, are read as the object
  that names them. -/
  read_values : ∀ values : List Json, values.length ≤ layout.length →
    read (.array values) = read (.object ((layout.map (·.1)).zip values))
  /-- What was read is written with settled members. -/
  write_settled : ∀ value record, read value = some record →
    ∃ members, write record = .object members ∧ layout.settled members = members
  /-- What was read is read back when it is written, in every arrangement in which the value
  stays as it is. -/
  read_write : ∀ (arrangement : Arrangement) value record, arrangement.apply value = value →
    read value = some record → read (arrangement.apply (write record)) = some record

section Follows

variable {α : Type} {read : Json → Option α} {write : α → Json} {layout : Layout}

/-- A record of fields with allowed values follows its layout when it is read back. -/
theorem followsLayout_of {entries : α → List (String × Option Json)}
    {body : List (String × Json) → Option α}
    (opened : ∀ value, read value = record (layout.map (·.1)) value >>= body)
    (distinct : layout.Distinct)
    (settled : ∀ members, read (.object (layout.settled members)) = read (.object members))
    (shape : ∀ record, write record = .object (written (entries record)))
    (allowed : ∀ value record, read value = some record →
      List.Forall₂ (fun rule field => rule.1 = field.1 ∧ rule.2.Allows field.2) layout
        (entries record))
    (back : ∀ (arrangement : Arrangement) value record, arrangement.apply value = value →
      read value = some record → read (arrangement.apply (write record)) = some record) :
    FollowsLayout read write layout where
  read_settled := settled
  read_values values few := by
    have named : record (layout.map (·.1)) (Json.array values) =
        some ((layout.map (·.1)).zip values) := if_pos (by rwa [List.length_map])
    rw [opened, opened, named, record_object]
  write_settled value record isRead :=
    ⟨_, shape record, settled_written distinct (allowed value record isRead)⟩
  read_write := back

/-- Records that were read and are written alike are the same. -/
theorem FollowsLayout.write_injective (follows : FollowsLayout read write layout)
    (arrangement : Arrangement) {first second : Json} {left right : α}
    (keptFirst : arrangement.apply first = first) (keptSecond : arrangement.apply second = second)
    (isLeft : read first = some left) (isRight : read second = some right)
    (same : arrangement.apply (write left) = arrangement.apply (write right)) : left = right := by
  have leftBack := follows.read_write arrangement first left keptFirst isLeft
  have rightBack := follows.read_write arrangement second right keptSecond isRight
  rw [same, rightBack] at leftBack
  exact (Option.some.inj leftBack).symm

end Follows

/-- A value that is not `null` and stays as it is, is found where it was written. -/
theorem Arrangement.given_of_kept (arrangement : Arrangement) {value : Option Json}
    (kept : ∀ json ∈ value, json ≠ .null ∧ arrangement.apply json = json) :
    arrangement.given value = value := by
  cases value with
  | none => rfl
  | some json =>
    obtain ⟨notNull, same⟩ := kept json rfl
    rw [given, Option.map_some, same]
    cases json with
    | null => exact absurd rfl notNull
    | _ => rfl

/-- A kind of variable is read from its name. -/
theorem VariableKind.read_name (kind : VariableKind) :
    VariableKind.read (Json.string kind.name) = some kind := by
  cases kind <;> decide

/-- A method is read from its name. -/
theorem Method.read_name (method : Method) :
    Method.read (Json.string method.name) = some method := by
  cases method <;> decide

namespace SelectOption

/-- The layout of an option. -/
def layout : Layout := [("value", .required), ("label", .required)]

/-- The values of the fields of an option. -/
def entries (option : SelectOption) : List (String × Option Json) :=
  [("value", some (.string option.value)), ("label", some (.string option.label))]

/-- No field of an option is listed twice. -/
theorem distinct : layout.Distinct := by decide

/-- An option is written as its entries. -/
theorem toJson_eq (option : SelectOption) : option.toJson = .object (written option.entries) := rfl

/-- An option is read back. -/
theorem read_apply (arrangement : Arrangement) (option : SelectOption) :
    read (arrangement.apply option.toJson) = some option := by
  obtain ⟨members, shape, found⟩ := arrangement.exists_members option.entries distinct
  simp only [entries, List.forall_mem_cons, Option.map_some, arrangement.string] at found
  obtain ⟨value, label, -⟩ := found
  rw [toJson_eq, shape]
  simp [read, requiredField_of value, requiredField_of label]

/-- Options follow their layout. -/
theorem followsLayout : FollowsLayout read toJson layout := by
  refine followsLayout_of (fun _ => rfl) distinct (fun members => ?_) toJson_eq
    (fun _ _ _ => by simp [layout, entries, FieldRule.Allows])
    fun arrangement _ option _ _ => option.read_apply arrangement
  have same := layout.membersNamed_settled distinct members
  simp only [layout, List.forall_mem_cons] at same ⊢
  obtain ⟨value, label, -⟩ := same
  simp [read, requiredField_settle value, requiredField_settle label]

end SelectOption

namespace Variable

/-- The layout of the schema of a variable. -/
def layout : Layout := [
  ("type", .required), ("required", .defaulted (.bool false)), ("label", .optional),
  ("default", .optional), ("decimals", .optional), ("options", .listed), ("entity", .optional)]

/-- The values of the fields of the schema of a variable. -/
def entries (schema : Variable) : List (String × Option Json) := [
  ("type", some (.string schema.kind.name)),
  ("required", some (.bool schema.required)),
  ("label", schema.label.map .string),
  ("default", schema.fallback),
  ("decimals", schema.decimals.map Json.ofUInt32),
  ("options", if schema.options.isEmpty then none
    else some (.array (schema.options.map SelectOption.toJson))),
  ("entity", schema.entity.map .string)]

/-- No field of the schema of a variable is listed twice. -/
theorem distinct : layout.Distinct := by decide

/-- The schema of a variable is written as its entries. -/
theorem toJson_eq (schema : Variable) : schema.toJson = .object (written schema.entries) := by
  have options : (if schema.options.isEmpty then []
      else [("options", Json.array (schema.options.map SelectOption.toJson))]) =
      (if schema.options.isEmpty then none
        else some (Json.array (schema.options.map SelectOption.toJson))).toList.map
          fun value => ("options", value) := by
    split <;> rfl
  simp only [toJson, entries, written_cons, memberOf_eq, options, List.append_assoc]
  simp [written]

/-- The schema of a variable as it is read in an arrangement. -/
def arranged (arrangement : Arrangement) (schema : Variable) : Variable :=
  { schema with fallback := arrangement.given schema.fallback }

/-- The schema of a variable is read back. -/
theorem read_apply (arrangement : Arrangement) (schema : Variable) :
    read (arrangement.apply schema.toJson) = some (schema.arranged arrangement) := by
  obtain ⟨members, shape, found⟩ := arrangement.exists_members schema.entries distinct
  simp only [entries, List.forall_mem_cons, Option.map_some, arrangement.string, arrangement.bool,
    Option.map_map] at found
  obtain ⟨kind, required, label, fallback, decimals, options, entity, -⟩ := found
  have isOptions : defaultedField (list SelectOption.read) [] members "options" =
      some schema.options := by
    cases given : schema.options with
    | nil => exact defaultedField_of_none (by rw [options, given]; rfl)
    | cons first rest =>
      rw [given] at options
      rw [defaultedField_of (options.trans rfl)]
      exact (list_apply arrangement fun option _ => option.read_apply arrangement).trans
        (by rw [List.map_id'])
  rw [toJson_eq, shape]
  simp only [read, record_object, requiredField_of kind, VariableKind.read_name,
    defaultedField_of required, truth_bool, optionalField_text arrangement label,
    optionalField_json fallback, optionalField_word arrangement decimals, isOptions,
    optionalField_text arrangement entity, Option.bind_eq_bind, Option.bind_some]
  rfl

/-- Schemas of variables follow their layout. -/
theorem followsLayout : FollowsLayout read toJson layout := by
  refine followsLayout_of (fun _ => rfl) distinct (fun members => ?_) toJson_eq
    (fun value schema isRead => ?_) fun arrangement value schema kept isRead => ?_
  · have same := layout.membersNamed_settled distinct members
    simp only [layout, List.forall_mem_cons] at same ⊢
    obtain ⟨kind, required, label, fallback, decimals, options, entity, -⟩ := same
    simp only [read, record_object, requiredField_settle kind,
      defaultedField_settle (truth_bool false) required, optionalField_settle label,
      optionalField_settle fallback, optionalField_settle decimals, listedField_settle options,
      optionalField_settle entity, Option.bind_eq_bind, Option.bind_some]
  · have plain := Arrangement.asWritten.nesting.fallback_of_read 0 rfl isRead
    have notNull : schema.fallback ≠ some .null := fun null => (plain _ null).1 rfl
    simp [layout, entries, FieldRule.Allows, notNull, Json.ofUInt32]
  · rw [read_apply, arranged,
      arrangement.given_of_kept (arrangement.nesting.fallback_of_read 0 kept isRead)]

end Variable

namespace ResultField

/-- The layout of a field of a result. -/
def layout : Layout := [("internalType", .required), ("name", .required), ("type", .required)]

/-- The values of the fields of a field of a result. -/
def entries (field : ResultField) : List (String × Option Json) :=
  [("internalType", some (.string field.internalType)), ("name", some (.string field.name)),
    ("type", some (.string field.type))]

/-- No field of a field of a result is listed twice. -/
theorem distinct : layout.Distinct := by decide

/-- A field of a result is written as its entries. -/
theorem toJson_eq (field : ResultField) : field.toJson = .object (written field.entries) := rfl

/-- A field of a result is read back. -/
theorem read_apply (arrangement : Arrangement) (field : ResultField) :
    read (arrangement.apply field.toJson) = some field := by
  obtain ⟨members, shape, found⟩ := arrangement.exists_members field.entries distinct
  simp only [entries, List.forall_mem_cons, Option.map_some, arrangement.string] at found
  obtain ⟨internalType, name, type, -⟩ := found
  rw [toJson_eq, shape]
  simp [read, requiredField_of internalType, requiredField_of name, requiredField_of type]

/-- Fields of results follow their layout. -/
theorem followsLayout : FollowsLayout read toJson layout := by
  refine followsLayout_of (fun _ => rfl) distinct (fun members => ?_) toJson_eq
    (fun _ _ _ => by simp [layout, entries, FieldRule.Allows])
    fun arrangement _ field _ _ => field.read_apply arrangement
  have same := layout.membersNamed_settled distinct members
  simp only [layout, List.forall_mem_cons] at same ⊢
  obtain ⟨internalType, name, type, -⟩ := same
  simp [read, requiredField_settle internalType, requiredField_settle name,
    requiredField_settle type]

end ResultField

namespace ResultShape

/-- The layout of a result shape. -/
def layout : Layout := [("components", .required), ("name", .required), ("type", .required)]

/-- The values of the fields of a result shape. -/
def entries (shape : ResultShape) : List (String × Option Json) :=
  [("components", some (.array (shape.fields.map ResultField.toJson))),
    ("name", some (.string shape.name)), ("type", some (.string shape.type))]

/-- No field of a result shape is listed twice. -/
theorem distinct : layout.Distinct := by decide

/-- A result shape is written as its entries. -/
theorem toJson_eq (shape : ResultShape) : shape.toJson = .object (written shape.entries) := rfl

/-- A result shape is read back. -/
theorem read_apply (arrangement : Arrangement) (result : ResultShape) :
    read (arrangement.apply result.toJson) = some result := by
  obtain ⟨members, shape, found⟩ := arrangement.exists_members result.entries distinct
  simp only [entries, List.forall_mem_cons, Option.map_some, arrangement.string] at found
  obtain ⟨components, name, type, -⟩ := found
  have fields : list ResultField.read
      (arrangement.apply (.array (result.fields.map ResultField.toJson))) =
        some (result.fields.map id) :=
    list_apply arrangement fun field _ => field.read_apply arrangement
  rw [toJson_eq, shape]
  simp [read, requiredField_of components, fields, requiredField_of name, requiredField_of type]

/-- Result shapes follow their layout. -/
theorem followsLayout : FollowsLayout read toJson layout := by
  refine followsLayout_of (fun _ => rfl) distinct (fun members => ?_) toJson_eq
    (fun _ _ _ => by simp [layout, entries, FieldRule.Allows])
    fun arrangement _ shape _ _ => shape.read_apply arrangement
  have same := layout.membersNamed_settled distinct members
  simp only [layout, List.forall_mem_cons] at same ⊢
  obtain ⟨components, name, type, -⟩ := same
  simp [read, requiredField_settle components, requiredField_settle name,
    requiredField_settle type]

end ResultShape

namespace DataSource

/-- The layout of a data source. -/
def layout : Layout := [
  ("name", .required), ("method", .defaulted (.string Method.get.name)), ("endpoint", .required),
  ("queryParams", .optional), ("headers", .optional), ("body", .optional),
  ("extractionRule", .required), ("resultShape", .defaulted ResultShape.outcomeIndex.toJson)]

/-- The values of the fields of a data source. -/
def entries (source : DataSource) : List (String × Option Json) := [
  ("name", some (.string source.name)), ("method", some (.string source.method.name)),
  ("endpoint", some (.string source.endpoint)), ("queryParams", source.query.map Json.ofTexts),
  ("headers", source.headers.map Json.ofTexts), ("body", source.body),
  ("extractionRule", some (.string source.rule)), ("resultShape", some source.shape.toJson)]

/-- No field of a data source is listed twice. -/
theorem distinct : layout.Distinct := by decide

/-- A data source is written as its entries. -/
theorem toJson_eq (source : DataSource) : source.toJson = .object (written source.entries) := by
  simp only [toJson, entries, written_cons, memberOf_eq, List.append_assoc]
  simp [written]

/-- A data source as it is read in an arrangement. -/
def arranged (arrangement : Arrangement) (source : DataSource) : DataSource :=
  { source with body := arrangement.given source.body }

/-- A data source is read back. -/
theorem read_apply (arrangement : Arrangement) (source : DataSource) :
    read (arrangement.apply source.toJson) = some (source.arranged arrangement) := by
  obtain ⟨members, shape, found⟩ := arrangement.exists_members source.entries distinct
  simp only [entries, List.forall_mem_cons, Option.map_some, arrangement.string,
    Option.map_map] at found
  obtain ⟨name, method, endpoint, query, headers, body, rule, resultShape, -⟩ := found
  rw [toJson_eq, shape]
  simp only [read, record_object, requiredField_of name, text_string, defaultedField_of method,
    Method.read_name, requiredField_of endpoint, optionalField_texts arrangement query,
    optionalField_texts arrangement headers, optionalField_json body, requiredField_of rule,
    defaultedField_of resultShape, ResultShape.read_apply, Option.bind_eq_bind, Option.bind_some]
  rfl

/-- Data sources follow their layout. -/
theorem followsLayout : FollowsLayout read toJson layout := by
  refine followsLayout_of (fun _ => rfl) distinct (fun members => ?_) toJson_eq
    (fun value source isRead => ?_) fun arrangement value source kept isRead => ?_
  · have same := layout.membersNamed_settled distinct members
    simp only [layout, List.forall_mem_cons] at same ⊢
    obtain ⟨name, method, endpoint, query, headers, body, rule, shape, -⟩ := same
    have isDefault : ResultShape.read ResultShape.outcomeIndex.toJson = some .outcomeIndex :=
      ResultShape.read_apply .asWritten .outcomeIndex
    simp only [read, record_object, requiredField_settle name,
      defaultedField_settle (Method.read_name .get) method, requiredField_settle endpoint,
      optionalField_settle query, optionalField_settle headers, optionalField_settle body,
      requiredField_settle rule, defaultedField_settle isDefault shape, Option.bind_eq_bind,
      Option.bind_some]
  · have plain := Arrangement.asWritten.nesting.body_of_read 0 rfl isRead
    have notNull : source.body ≠ some .null := fun null => (plain _ null).1 rfl
    simp [layout, entries, FieldRule.Allows, notNull, Json.ofTexts, Json.ofDict]
  · rw [read_apply, arranged,
      arrangement.given_of_kept (arrangement.nesting.body_of_read 0 kept isRead)]

end DataSource

namespace Outcome

/-- The layout of an outcome. -/
def layout : Layout := [("name", .required), ("displayOrder", .required)]

/-- The values of the fields of an outcome. -/
def entries (outcome : Outcome) : List (String × Option Json) :=
  [("name", some (.string outcome.name)), ("displayOrder", some (.ofUInt32 outcome.displayOrder))]

/-- No field of an outcome is listed twice. -/
theorem distinct : layout.Distinct := by decide

/-- An outcome is written as its entries. -/
theorem toJson_eq (outcome : Outcome) : outcome.toJson = .object (written outcome.entries) := rfl

/-- An outcome is read back. -/
theorem read_apply (arrangement : Arrangement) (outcome : Outcome) :
    read (arrangement.apply outcome.toJson) = some outcome := by
  obtain ⟨members, shape, found⟩ := arrangement.exists_members outcome.entries distinct
  simp only [entries, List.forall_mem_cons, Option.map_some, arrangement.string,
    arrangement.ofUInt32] at found
  obtain ⟨name, order, -⟩ := found
  rw [toJson_eq, shape]
  simp [read, requiredField_of name, requiredField_of order]

/-- Outcomes follow their layout. -/
theorem followsLayout : FollowsLayout read toJson layout := by
  refine followsLayout_of (fun _ => rfl) distinct (fun members => ?_) toJson_eq
    (fun _ _ _ => by simp [layout, entries, FieldRule.Allows])
    fun arrangement _ outcome _ _ => outcome.read_apply arrangement
  have same := layout.membersNamed_settled distinct members
  simp only [layout, List.forall_mem_cons] at same ⊢
  obtain ⟨name, order, -⟩ := same
  simp [read, requiredField_settle name, requiredField_settle order]

end Outcome

namespace MarketDefaults

/-- The layout of market defaults. -/
def layout : Layout := [
  ("outcomes", .required), ("consensusThresholdPct", .required), ("collateralToken", .required),
  ("marketCapPct", .required)]

/-- The values of the fields of market defaults. -/
def entries (defaults : MarketDefaults) : List (String × Option Json) := [
  ("outcomes", some (.array (defaults.outcomes.map Outcome.toJson))),
  ("consensusThresholdPct", some (.ofUInt8 defaults.consensusThreshold)),
  ("collateralToken", some (.string defaults.collateralToken)),
  ("marketCapPct", some (.ofUInt8 defaults.marketCap))]

/-- No field of market defaults is listed twice. -/
theorem distinct : layout.Distinct := by decide

/-- Market defaults are written as their entries. -/
theorem toJson_eq (defaults : MarketDefaults) :
    defaults.toJson = .object (written defaults.entries) := rfl

/-- Market defaults are read back. -/
theorem read_apply (arrangement : Arrangement) (defaults : MarketDefaults) :
    read (arrangement.apply defaults.toJson) = some defaults := by
  obtain ⟨members, shape, found⟩ := arrangement.exists_members defaults.entries distinct
  simp only [entries, List.forall_mem_cons, Option.map_some, arrangement.string,
    arrangement.ofUInt8] at found
  obtain ⟨listed, threshold, token, cap, -⟩ := found
  have outcomes : list Outcome.read
      (arrangement.apply (.array (defaults.outcomes.map Outcome.toJson))) =
        some (defaults.outcomes.map id) :=
    list_apply arrangement fun outcome _ => outcome.read_apply arrangement
  rw [toJson_eq, shape]
  simp [read, requiredField_of listed, outcomes, requiredField_of threshold,
    requiredField_of token, requiredField_of cap]

/-- Market defaults follow their layout. -/
theorem followsLayout : FollowsLayout read toJson layout := by
  refine followsLayout_of (fun _ => rfl) distinct (fun members => ?_) toJson_eq
    (fun _ _ _ => by simp [layout, entries, FieldRule.Allows])
    fun arrangement _ defaults _ _ => defaults.read_apply arrangement
  have same := layout.membersNamed_settled distinct members
  simp only [layout, List.forall_mem_cons] at same ⊢
  obtain ⟨listed, threshold, token, cap, -⟩ := same
  simp [read, requiredField_settle listed, requiredField_settle threshold,
    requiredField_settle token, requiredField_settle cap]

end MarketDefaults

/-- A schema is read back, each variable as it is read in the arrangement. -/
theorem Schema.read_apply (arrangement : Arrangement) (schema : Schema) :
    read (arrangement.apply schema.toJson) =
      some (schema.map (Variable.arranged arrangement)) := by
  have arranged : arrangement.apply schema.toJson =
      .ofDict (schema.map fun declared => arrangement.apply declared.toJson) := by
    rw [toJson, arrangement.dict]
    exact congrArg Json.ofDict (Dict.ext List.map_map)
  rw [arranged]
  exact dict_map fun entry _ => entry.2.read_apply arrangement

namespace Template

/-- The layout of a template. -/
def layout : Layout := [
  ("id", .required), ("name", .required), ("description", .defaulted (.string "")),
  ("category", .defaulted (.string "")), ("image", .defaulted (.string "")),
  ("variables", .defaulted (.object [])), ("question", .required),
  ("resolutionDefinition", .required), ("dataSources", .required), ("defaults", .required)]

/-- The values of the fields of a template. -/
def entries (template : Template) : List (String × Option Json) := [
  ("id", some (.string template.id)), ("name", some (.string template.name)),
  ("description", some (.string template.description)),
  ("category", some (.string template.category)), ("image", some (.string template.image)),
  ("variables", some template.schema.toJson), ("question", some (.string template.question)),
  ("resolutionDefinition", some (.string template.resolution)),
  ("dataSources", some (.array (template.sources.map DataSource.toJson))),
  ("defaults", some template.defaults.toJson)]

/-- No field of a template is listed twice. -/
theorem distinct : layout.Distinct := by decide

/-- A template is written as its entries. -/
theorem toJson_eq (template : Template) : template.toJson = .object (written template.entries) :=
  rfl

/-- A template as it is read in an arrangement. -/
def arranged (arrangement : Arrangement) (template : Template) : Template :=
  { template with
    schema := template.schema.map (Variable.arranged arrangement)
    sources := template.sources.map (DataSource.arranged arrangement) }

/-- A template is read back. -/
theorem read_apply (arrangement : Arrangement) (template : Template) :
    read (arrangement.apply template.toJson) = some (template.arranged arrangement) := by
  obtain ⟨members, shape, found⟩ := arrangement.exists_members template.entries distinct
  simp only [entries, List.forall_mem_cons, Option.map_some, arrangement.string] at found
  obtain ⟨id, name, description, category, image, schema, question, resolution, listed, defaults,
    -⟩ := found
  have sources : list DataSource.read
      (arrangement.apply (.array (template.sources.map DataSource.toJson))) =
        some (template.sources.map (DataSource.arranged arrangement)) :=
    list_apply arrangement fun source _ => source.read_apply arrangement
  rw [toJson_eq, shape]
  simp only [read, record_object, requiredField_of id, text_string, requiredField_of name,
    defaultedField_of description, defaultedField_of category, defaultedField_of image,
    defaultedField_of schema, Schema.read_apply, requiredField_of question,
    requiredField_of resolution, requiredField_of listed, sources, requiredField_of defaults,
    MarketDefaults.read_apply, Option.bind_eq_bind, Option.bind_some]
  rfl

/-- A template whose bodies and defaults stay as they are is read as it is. -/
theorem arranged_of_kept {arrangement : Arrangement} {template : Template}
    (defaults : ∀ entry ∈ template.schema.entries, ∀ json ∈ entry.2.fallback,
      json ≠ .null ∧ arrangement.apply json = json)
    (bodies : ∀ source ∈ template.sources, ∀ json ∈ source.body,
      json ≠ .null ∧ arrangement.apply json = json) :
    template.arranged arrangement = template := by
  have schema : template.schema.map (Variable.arranged arrangement) = template.schema := by
    refine Dict.ext ((List.map_congr_left fun entry listed => ?_).trans (List.map_id _))
    rw [Variable.arranged, arrangement.given_of_kept (defaults entry listed)]
    rfl
  have sources : template.sources.map (DataSource.arranged arrangement) = template.sources := by
    refine (List.map_congr_left fun source listed => ?_).trans (List.map_id _)
    rw [DataSource.arranged, arrangement.given_of_kept (bodies source listed)]
    rfl
  rw [arranged, schema, sources]

/-- Templates follow their layout. -/
theorem followsLayout : FollowsLayout read toJson layout := by
  refine followsLayout_of (fun _ => rfl) distinct (fun members => ?_) toJson_eq
    (fun _ _ _ => by simp [layout, entries, FieldRule.Allows])
    fun arrangement value template kept isRead => ?_
  · have same := layout.membersNamed_settled distinct members
    simp only [layout, List.forall_mem_cons] at same ⊢
    obtain ⟨id, name, description, category, image, schema, question, resolution, sources,
      defaults, -⟩ := same
    have isEmpty : Schema.read (Json.object []) = some Dict.empty := rfl
    simp only [read, record_object, requiredField_settle id, requiredField_settle name,
      defaultedField_settle (text_string "") description,
      defaultedField_settle (text_string "") category,
      defaultedField_settle (text_string "") image, defaultedField_settle isEmpty schema,
      requiredField_settle question, requiredField_settle resolution,
      requiredField_settle sources, requiredField_settle defaults, Option.bind_eq_bind,
      Option.bind_some]
  · obtain ⟨defaults, bodies⟩ := arrangement.nesting.template_of_read 0 kept isRead
    rw [read_apply, arranged_of_kept defaults bodies]

/-- The templates that can be read are those without `null` as a default or a body. -/
theorem exists_read_iff {template : Template} :
    (∃ json : Json, read json = some template) ↔
      (∀ entry ∈ template.schema.entries, ∀ json ∈ entry.2.fallback, json ≠ .null) ∧
        ∀ source ∈ template.sources, ∀ json ∈ source.body, json ≠ .null := by
  refine ⟨fun ⟨value, isRead⟩ => ?_, fun ⟨defaults, bodies⟩ => ⟨template.toJson, ?_⟩⟩
  · obtain ⟨defaults, bodies⟩ := Arrangement.asWritten.nesting.template_of_read 0 rfl isRead
    exact ⟨fun entry listed json given => (defaults entry listed json given).1,
      fun source listed json given => (bodies source listed json given).1⟩
  · refine (template.read_apply .asWritten).trans (congrArg some (arranged_of_kept ?_ ?_))
    · exact fun entry listed json given => ⟨defaults entry listed json given, rfl⟩
    · exact fun source listed json given => ⟨bodies source listed json given, rfl⟩

end Template

end PredictionMarket
