import PredictionMarket.Rendering
import PredictionMarket.Template.Codec
import PredictionMarket.Template.Fields

/-!
# Queries

A query is a data source with the values of a binding in the place of its placeholders,
ready to be sent. Endpoint, query parameters and extraction rule are rendered; method,
headers and body are taken as they are, and the result shape becomes a text.
-/

namespace PredictionMarket

/-- A data source that is ready to be asked. -/
structure Query where
  name : String
  method : Method
  endpoint : String
  /-- The query parameters; never an empty dictionary. -/
  query : Option (Dict String)
  headers : Option (Dict String)
  body : Option Json
  rule : String
  /-- The result shape as a JSON text. -/
  shape : String

namespace Query

/-- Renders the query parameters of the data source at a position, by ascending name. -/
def renderParameters (renderer : Renderer) (position : Nat) :
    List (String × String) → Except Failure (List (String × String))
  | [] => .ok []
  | (name, text) :: rest => do
    let rendered ← renderer.applyField text (sourceLabel position (DataSource.queryPart name))
    let others ← renderParameters renderer position rest
    return (name, rendered) :: others

/-- The query of the data source at a position. -/
def ofSource (renderer : Renderer) (position : Nat) (source : DataSource) :
    Except Failure Query := do
  let endpoint ← renderer.applyField source.endpoint (sourceLabel position "endpoint")
  let parameters ← renderParameters renderer position source.queryEntries
  let rule ← renderer.applyField source.rule (sourceLabel position "extractionRule")
  return {
    name := source.name
    method := source.method
    endpoint
    query := if parameters.isEmpty then none else some (Dict.ofList parameters)
    headers := source.headers
    body := source.body
    rule
    shape := source.shape.text }

/-- The queries of data sources of which the first one is at a position. -/
def ofSourcesFrom (renderer : Renderer) (position : Nat) :
    List DataSource → Except Failure (List Query)
  | [] => .ok []
  | source :: rest => do
    let query ← ofSource renderer position source
    let others ← ofSourcesFrom renderer (position + 1) rest
    return query :: others

/-- The queries of all data sources of a template, in their order. -/
def ofSources (renderer : Renderer) (sources : List DataSource) : Except Failure (List Query) :=
  ofSourcesFrom renderer 0 sources

/-- A query as a record. -/
def toJson (query : Query) : Json :=
  .object (
    [("name", .string query.name), ("method", .string query.method.name),
      ("endpoint", .string query.endpoint)] ++
    Json.memberOf "queryParams" query.query Json.ofTexts ++
    Json.memberOf "headers" query.headers Json.ofTexts ++
    Json.memberOf "body" query.body id ++
    [("extractionRule", .string query.rule), ("resultShape", .string query.shape)])

/-- Reads a query. -/
def read {ν : Type} {μ : Type → Type} [Monad μ] [Datum ν μ] (value : ν) : μ Query := do
  let members ← Datum.record ["name", "method", "endpoint", "queryParams", "headers", "body",
    "extractionRule", "resultShape"] value
  return {
    name := ← Datum.requiredField Datum.text members "name"
    method := ← Datum.requiredField Method.read members "method"
    endpoint := ← Datum.requiredField Datum.text members "endpoint"
    query := ← Datum.optionalField (Datum.dict Datum.text) members "queryParams"
    headers := ← Datum.optionalField (Datum.dict Datum.text) members "headers"
    body := ← Datum.optionalField Datum.json members "body"
    rule := ← Datum.requiredField Datum.text members "extractionRule"
    shape := ← Datum.requiredField Datum.text members "resultShape" }

end Query

end PredictionMarket
