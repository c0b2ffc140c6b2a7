import PredictionMarket.Proofs.Generation.Printed

/-!
# Result shapes of queries

A query has the shape of its result as a text only. Whoever reads the text as JSON and the JSON as
a result shape gets the shape that was written (`ResultShape.ofText?_text`), whatever characters
stand in it and however many fields it has. So the queries of a market tell the shapes of the data
sources of its template (`result_shapes_survive_their_text`).
-/

namespace PredictionMarket

open Json (Readable readable_array_iff readable_string)

variable {room : Nat}

/-- A field of a result is readable. -/
theorem ResultField.readable_toJson (field : ResultField) : Readable (room + 1) field.toJson := by
  rw [toJson_eq, Json.readable_written_iff]
  simp [entries, readable_string]

namespace ResultShape

/-- A result shape is readable. -/
theorem readable_toJson (shape : ResultShape) : Readable (room + 3) shape.toJson := by
  have fields : Readable (room + 2) (.array (shape.fields.map ResultField.toJson)) := by
    refine readable_array_iff.2 fun element listed => ?_
    obtain ⟨field, -, rfl⟩ := List.mem_map.1 listed
    exact field.readable_toJson
  rw [toJson_eq, Json.readable_written_iff]
  simp [entries, fields, readable_string]

/-- The result shape that a JSON text denotes. -/
def ofText? (text : String) : Option ResultShape := (Json.ofText? text).bind read

/-- The text of a result shape denotes the shape. -/
theorem ofText?_text (shape : ResultShape) : ofText? shape.text = some shape := by
  have fits : Readable Json.mostNested shape.toJson := shape.readable_toJson
  rw [ofText?, text, Json.ofText?_toCompactText fits, Option.bind_some]
  exact shape.read_apply .byName

/-- Different result shapes have different texts. -/
theorem text_injective : Function.Injective text := by
  intro shape other same
  have denoted := congrArg ofText? same
  rwa [ofText?_text, ofText?_text, Option.some_inj] at denoted

end ResultShape

namespace Query

variable {renderer : Renderer}

/-- The result shape that the text in a query denotes. -/
def shape? (query : Query) : Option ResultShape := ResultShape.ofText? query.shape

/-- The shape of a rendered query is that of its data source. -/
theorem shape?_rendered (renderer : Renderer) (source : DataSource) :
    (rendered renderer source).shape? = some source.shape :=
  source.shape.ofText?_text

/-- The queries of data sources have the shapes of the sources, one by one. -/
theorem map_shape?_rendered (renderer : Renderer) (sources : List DataSource) :
    (sources.map (rendered renderer)).map shape? = sources.map fun source => some source.shape := by
  rw [List.map_map]
  exact List.map_congr_left fun source _ => shape?_rendered renderer source

/-- A query that is made of a data source has its shape. -/
theorem shape?_of_ofSource {position : Nat} {source : DataSource} {query : Query}
    (made : ofSource renderer position source = .ok query) :
    query.shape? = some source.shape := by
  rw [ofSource_eq, Failure.settle_eq_ok_iff] at made
  rw [← made.2, shape?_rendered]

/-- Queries that are made of data sources have their shapes. -/
theorem map_shape?_of_ofSources {sources : List DataSource} {queries : List Query}
    (made : ofSources renderer sources = .ok queries) :
    queries.map shape? = sources.map fun source => some source.shape := by
  rw [ofSources, ofSourcesFrom_eq, Failure.settle_eq_ok_iff] at made
  rw [← made.2, map_shape?_rendered]

end Query

/-- The text of a result shape denotes the shape, so different shapes have different texts, and
what is read is the shape of an outcome index exactly when the shape is. The queries of a template
that is rendered, alone or for a market, have the shapes of its data sources, in their order. -/
theorem result_shapes_survive_their_text :
    (∀ shape : ResultShape, ResultShape.ofText? shape.text = some shape) ∧
    Function.Injective ResultShape.text ∧
    (∀ shape : ResultShape, (ResultShape.ofText? shape.text).map ResultShape.isOutcomeIndex =
      some shape.isOutcomeIndex) ∧
    (∀ renderer position source query, Query.ofSource renderer position source = .ok query →
      query.shape? = some source.shape) ∧
    (∀ renderer sources queries, Query.ofSources renderer sources = .ok queries →
      queries.map Query.shape? = sources.map fun source => some source.shape) ∧
    ∀ engine catalog options id values market,
      Market.generate engine catalog options id values = .ok market →
        ∃ template, catalog.find? id = some template ∧
          market.queries.map Query.shape? =
            template.sources.map fun source => some source.shape := by
  refine ⟨ResultShape.ofText?_text, ResultShape.text_injective, fun shape => ?_,
    fun _ _ _ _ => Query.shape?_of_ofSource, fun _ _ _ => Query.map_shape?_of_ofSources,
    fun engine catalog options id values market generated => ?_⟩
  · rw [ResultShape.ofText?_text, Option.map_some]
  · obtain ⟨template, instant, found, -, -, rfl⟩ := Market.exists_of_generate generated
    exact ⟨template, found, Query.map_shape?_rendered _ _⟩

/-- A result shape with quotes, backslashes, control characters and braces in its names. -/
def thornyShape : ResultShape where
  fields := [
    { internalType := "\"\\\"", name := "\n\t\u0001", type := "\x7b\x7bside\x7d\x7d" },
    { internalType := "\\u0041", name := "\u2028\ud7ff", type := "" }]
  name := "]\x7d,"
  type := "tuple"

/-- A data source with that shape. -/
def thornySource : DataSource := { Builtin.source "thorns" "/t" "0" with shape := thornyShape }

/-- The shape of a query is read back, whatever stands in it. -/
theorem thorny_shape_survives_its_text :
    ∃ query, Query.ofSource ⟨Dict.empty, true⟩ 0 thornySource = .ok query ∧
      query.shape? = some thornyShape ∧ query.shape ≠ ResultShape.outcomeIndex.text := by
  obtain ⟨-, injective, -, made, -⟩ := result_shapes_survive_their_text
  have query : Query.ofSource ⟨Dict.empty, true⟩ 0 thornySource =
      .ok (Query.rendered ⟨Dict.empty, true⟩ thornySource) := by
    rw [Query.ofSource_eq]
    rfl
  refine ⟨_, query, made _ _ _ _ query, fun same => ?_⟩
  exact absurd (injective same) (by decide)

end PredictionMarket
