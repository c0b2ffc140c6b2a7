import PredictionMarket.Catalog
import PredictionMarket.Query

/-!
# Markets

A market is generated from a template of a catalog and the variables of a caller. Its
prose and its queries are rendered under one binding; its defaults are those of the
template.
-/

namespace PredictionMarket

/-- A concrete prediction market. -/
structure Market where
  templateId : String
  question : String
  resolution : String
  /-- The queries in order of authority. -/
  queries : List Query
  defaults : MarketDefaults

/-- What a deployment decides about the generation of markets. -/
structure GenerationOptions where
  /-- The address of the proxy, unless a caller gives one. -/
  proxy : String
  /-- Whether a placeholder without a value is a failure. -/
  strict : Bool

namespace Market

/-- Renders a template. -/
def ofTemplate (renderer : Renderer) (template : Template) : Except Failure Market := do
  let question ← renderer.applyField template.question Template.questionLabel
  let resolution ← renderer.applyField template.resolution Template.resolutionLabel
  let queries ← Query.ofSources renderer template.sources
  return {
    templateId := template.id
    question
    resolution
    queries
    defaults := template.defaults }

/-- Generates a market from the template with the given identifier. -/
def generate (engine : PatternEngine) (catalog : Catalog) (options : GenerationOptions)
    (id : String) (values : Variables) : Except Failure Market :=
  match catalog.find? id with
  | none => .error (.templateNotFound id)
  | some template => do
    let binding ← Binding.make template.schema values options.proxy
    let renderer ← Renderer.make engine binding options.strict
    ofTemplate renderer template

/-- A market as a record. -/
def toJson (market : Market) : Json :=
  .object [
    ("templateId", .string market.templateId),
    ("question", .string market.question),
    ("resolutionDefinition", .string market.resolution),
    ("dataSources", .array (market.queries.map Query.toJson)),
    ("defaults", market.defaults.toJson)]

/-- Reads a market. -/
def read {ν : Type} {μ : Type → Type} [Monad μ] [Datum ν μ] (value : ν) : μ Market := do
  let members ← Datum.record ["templateId", "question", "resolutionDefinition", "dataSources",
    "defaults"] value
  return {
    templateId := ← Datum.requiredField Datum.text members "templateId"
    question := ← Datum.requiredField Datum.text members "question"
    resolution := ← Datum.requiredField Datum.text members "resolutionDefinition"
    queries := ← Datum.requiredField (Datum.list Query.read) members "dataSources"
    defaults := ← Datum.requiredField MarketDefaults.read members "defaults" }

end Market

end PredictionMarket
