import PredictionMarket.Datum
import PredictionMarket.Json.Printer
import PredictionMarket.Template.Basic

/-!
# Templates as records

How templates and their parts are written as JSON and read from JSON or YAML. A field
without a value and an empty list of options are not written, and what is not written is
read as its default.
-/

namespace PredictionMarket

open Datum

variable {ν : Type} {μ : Type → Type} [Monad μ] [Datum ν μ]

namespace Json

/-- A member that is written only if there is a value. -/
def memberOf {α : Type} (name : String) (value : Option α) (write : α → Json) :
    List (String × Json) :=
  match value with
  | some value => [(name, write value)]
  | none => []

/-- The object that lists a dictionary of texts. -/
def ofTexts (texts : Dict String) : Json := ofDict (texts.map string)

end Json

/-- Reads the name of a kind of variable. -/
def VariableKind.read (value : ν) : μ VariableKind := oneOf name all value

/-- Reads the name of a method. -/
def Method.read (value : ν) : μ Method := oneOf name all value

namespace SelectOption

/-- An option as a record. -/
def toJson (option : SelectOption) : Json :=
  .object [("value", .string option.value), ("label", .string option.label)]

/-- Reads an option. -/
def read (value : ν) : μ SelectOption := do
  let members ← record ["value", "label"] value
  return {
    value := ← requiredField text members "value"
    label := ← requiredField text members "label" }

end SelectOption

namespace Variable

/-- The schema of a variable as a record. -/
def toJson (schema : Variable) : Json :=
  .object (
    [("type", .string schema.kind.name), ("required", .bool schema.required)] ++
    Json.memberOf "label" schema.label .string ++
    Json.memberOf "default" schema.fallback id ++
    Json.memberOf "decimals" schema.decimals Json.ofUInt32 ++
    (if schema.options.isEmpty then []
      else [("options", .array (schema.options.map SelectOption.toJson))]) ++
    Json.memberOf "entity" schema.entity .string)

/-- Reads the schema of a variable. -/
def read (value : ν) : μ Variable := do
  let members ← record ["type", "required", "label", "default", "decimals", "options",
    "entity"] value
  return {
    kind := ← requiredField VariableKind.read members "type"
    required := ← defaultedField truth false members "required"
    label := ← optionalField text members "label"
    fallback := ← optionalField json members "default"
    decimals := ← optionalField word members "decimals"
    options := ← defaultedField (list SelectOption.read) [] members "options"
    entity := ← optionalField text members "entity" }

end Variable

namespace Schema

/-- A schema as a record. -/
def toJson (schema : Schema) : Json := .ofDict (schema.map Variable.toJson)

/-- Reads a schema. -/
def read (value : ν) : μ Schema := dict Variable.read value

end Schema

namespace ResultField

/-- A field of a result as a record. -/
def toJson (field : ResultField) : Json :=
  .object [
    ("internalType", .string field.internalType),
    ("name", .string field.name),
    ("type", .string field.type)]

/-- Reads a field of a result. -/
def read (value : ν) : μ ResultField := do
  let members ← record ["internalType", "name", "type"] value
  return {
    internalType := ← requiredField text members "internalType"
    name := ← requiredField text members "name"
    type := ← requiredField text members "type" }

end ResultField

namespace ResultShape

/-- A result shape as a record. -/
def toJson (shape : ResultShape) : Json :=
  .object [
    ("components", .array (shape.fields.map ResultField.toJson)),
    ("name", .string shape.name),
    ("type", .string shape.type)]

/-- Reads a result shape. -/
def read (value : ν) : μ ResultShape := do
  let members ← record ["components", "name", "type"] value
  return {
    fields := ← requiredField (list ResultField.read) members "components"
    name := ← requiredField text members "name"
    type := ← requiredField text members "type" }

/-- A result shape as a compact JSON text. -/
def text (shape : ResultShape) : String := shape.toJson.toCompactText

end ResultShape

namespace DataSource

/-- A data source as a record. -/
def toJson (source : DataSource) : Json :=
  .object (
    [("name", .string source.name), ("method", .string source.method.name),
      ("endpoint", .string source.endpoint)] ++
    Json.memberOf "queryParams" source.query Json.ofTexts ++
    Json.memberOf "headers" source.headers Json.ofTexts ++
    Json.memberOf "body" source.body id ++
    [("extractionRule", .string source.rule), ("resultShape", source.shape.toJson)])

/-- Reads a data source. -/
def read (value : ν) : μ DataSource := do
  let members ← record ["name", "method", "endpoint", "queryParams", "headers", "body",
    "extractionRule", "resultShape"] value
  return {
    name := ← requiredField text members "name"
    method := ← defaultedField Method.read .get members "method"
    endpoint := ← requiredField text members "endpoint"
    query := ← optionalField (dict text) members "queryParams"
    headers := ← optionalField (dict text) members "headers"
    body := ← optionalField json members "body"
    rule := ← requiredField text members "extractionRule"
    shape := ← defaultedField ResultShape.read .outcomeIndex members "resultShape" }

end DataSource

namespace Outcome

/-- An outcome as a record. -/
def toJson (outcome : Outcome) : Json :=
  .object [("name", .string outcome.name), ("displayOrder", .ofUInt32 outcome.displayOrder)]

/-- Reads an outcome. -/
def read (value : ν) : μ Outcome := do
  let members ← record ["name", "displayOrder"] value
  return {
    name := ← requiredField text members "name"
    displayOrder := ← requiredField word members "displayOrder" }

end Outcome

namespace MarketDefaults

/-- Market defaults as a record. -/
def toJson (defaults : MarketDefaults) : Json :=
  .object [
    ("outcomes", .array (defaults.outcomes.map Outcome.toJson)),
    ("consensusThresholdPct", .ofUInt8 defaults.consensusThreshold),
    ("collateralToken", .string defaults.collateralToken),
    ("marketCapPct", .ofUInt8 defaults.marketCap)]

/-- Reads market defaults. -/
def read (value : ν) : μ MarketDefaults := do
  let members ← record ["outcomes", "consensusThresholdPct", "collateralToken",
    "marketCapPct"] value
  return {
    outcomes := ← requiredField (list Outcome.read) members "outcomes"
    consensusThreshold := ← requiredField byte members "consensusThresholdPct"
    collateralToken := ← requiredField text members "collateralToken"
    marketCap := ← requiredField byte members "marketCapPct" }

end MarketDefaults

namespace Template

/-- A template as a record. -/
def toJson (template : Template) : Json :=
  .object [
    ("id", .string template.id),
    ("name", .string template.name),
    ("description", .string template.description),
    ("category", .string template.category),
    ("image", .string template.image),
    ("variables", template.schema.toJson),
    ("question", .string template.question),
    ("resolutionDefinition", .string template.resolution),
    ("dataSources", .array (template.sources.map DataSource.toJson)),
    ("defaults", template.defaults.toJson)]

/-- Reads a template. -/
def read (value : ν) : μ Template := do
  let members ← record ["id", "name", "description", "category", "image", "variables",
    "question", "resolutionDefinition", "dataSources", "defaults"] value
  return {
    id := ← requiredField text members "id"
    name := ← requiredField text members "name"
    description := ← defaultedField text "" members "description"
    category := ← defaultedField text "" members "category"
    image := ← defaultedField text "" members "image"
    schema := ← defaultedField Schema.read Dict.empty members "variables"
    question := ← requiredField text members "question"
    resolution := ← requiredField text members "resolutionDefinition"
    sources := ← requiredField (list DataSource.read) members "dataSources"
    defaults := ← requiredField MarketDefaults.read members "defaults" }

/-- The summary of a template as a record. -/
def Summary.toJson (summary : Summary) : Json :=
  .object [
    ("id", .string summary.id),
    ("name", .string summary.name),
    ("description", .string summary.description),
    ("category", .string summary.category),
    ("image", .string summary.image),
    ("variables", summary.schema.toJson)]

end Template

end PredictionMarket
