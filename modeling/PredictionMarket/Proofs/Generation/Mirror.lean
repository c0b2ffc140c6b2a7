import PredictionMarket.Proofs.Generation.ResultShapes

/-!
# Markets mirror their templates

A market has one query for each data source of its template, in the same order. A query
takes name, method, headers and body as they stand, and endpoint, rule and the values of the
parameters with every slot filled under one binding. The shape of its result is a text from which
the shape of the data source is read back.
-/

namespace PredictionMarket

/-- A query mirrors a data source when what is rendered of the source is rendered in the same
way, and all else is taken over. -/
structure Query.Mirrors (substitute : String → String) (source : DataSource) (query : Query) :
    Prop where
  name : query.name = source.name
  method : query.method = source.method
  headers : query.headers = source.headers
  body : query.body = source.body
  endpoint : query.endpoint = substitute source.endpoint
  rule : query.rule = substitute source.rule
  /-- The text of the shape is the one that is written for the shape of the source. -/
  shapeText : query.shape = source.shape.text
  /-- Read as a result shape, the text is the shape of the source. -/
  shape : query.shape? = some source.shape
  /-- There are no parameters when the source has none, or an empty dictionary of them. -/
  bare : query.query = none ↔ source.query = none ∨ source.query = some Dict.empty
  /-- Parameters have the names of the source, each with its rendered value. -/
  parameters : ∀ rendered, query.query = some rendered →
    ∃ declared, source.query = some declared ∧ rendered.keys = declared.keys ∧
      ∀ key text, declared.find? key = some text → rendered.find? key = some (substitute text)

namespace Query

/-- A rendered query mirrors its data source. -/
theorem mirrors_rendered (renderer : Renderer) (source : DataSource) :
    Mirrors renderer.apply source (rendered renderer source) where
  name := rfl
  method := rfl
  headers := rfl
  body := rfl
  endpoint := rfl
  rule := rfl
  shapeText := rfl
  shape := shape?_rendered renderer source
  bare := by
    rw [query_rendered, Option.map_eq_none_iff, Option.filter_eq_none_iff]
    cases source.query with
    | none => simp
    | some declared => simp [Dict.isEmpty_iff]
  parameters parameters present := by
    rw [query_rendered, Option.map_eq_some_iff] at present
    obtain ⟨declared, kept, rfl⟩ := present
    refine ⟨declared, (Option.filter_eq_some_iff.1 kept).1, Dict.keys_map _ _,
      fun key text found => ?_⟩
    rw [Dict.find?_map, found, Option.map_some]

end Query

namespace Market

/-- A market mirrors its template. When generation succeeds, identifier, defaults and prose are
those of the template, and the queries mirror the data sources one by one, in their order;
whatever is rendered is rendered under one binding. -/
theorem generate_mirrors_template (engine : PatternEngine) (catalog : Catalog)
    (options : GenerationOptions) (id : String) (values : Variables) (market : Market)
    (generated : generate engine catalog options id values = .ok market) :
    ∃ template binding, catalog.find? id = some template ∧
      Binding.make template.schema values options.proxy = .ok binding ∧
      market.templateId = template.id ∧ market.defaults = template.defaults ∧
      market.question = Renderer.apply ⟨binding, options.strict⟩ template.question ∧
      market.resolution = Renderer.apply ⟨binding, options.strict⟩ template.resolution ∧
      market.queries.length = template.sources.length ∧
      ∀ (position : Nat) (source : DataSource) (query : Query),
        template.sources[position]? = some source → market.queries[position]? = some query →
          Query.Mirrors (Renderer.apply ⟨binding, options.strict⟩) source query := by
  obtain ⟨template, instant, found, parsed, noFault, rfl⟩ := exists_of_generate generated
  obtain ⟨written, -, -⟩ := fault?_eq_none_iff.1 noFault
  refine ⟨template, _, found, Binding.make_of_writable parsed written, rfl, rfl, rfl, rfl,
    List.length_map _, fun position source query isSource isQuery => ?_⟩
  rw [rendered, List.getElem?_map, isSource] at isQuery
  cases isQuery
  exact Query.mirrors_rendered _ source

/-- A template whose first data source has an empty dictionary of parameters and placeholders in
its headers and body, and whose second one has parameters with braces around their slots and a
shape with thorny names. -/
def mirrorTemplate : Template :=
  { gapTemplate with
    sources := [
      { Builtin.source "first" "\x7b\x7bapiProxyPrefix\x7d\x7d/a" "0" with
        method := .post
        query := some Dict.empty
        headers := some (Dict.ofList [("X-Side", "\x7b\x7bside\x7d\x7d")])
        body := some (.string "\x7b\x7bside\x7d\x7d") },
      { Builtin.sourceWith "second" "/b/\x7b\x7bside\x7d\x7d"
          [("to", "\x7b\x7blater\x7d\x7d"), ("from", "\x7b\x7b\x7bside\x7d\x7d\x7d")] "1" with
        shape := thornyShape }] }

/-- The catalog of that template. -/
def mirrorCatalog : Catalog := ⟨[mirrorTemplate], _, rfl⟩

/-- The first query has no parameters, its headers as they stand and the text of the usual shape;
the second one has the parameters of the second source, filled, and its shape. -/
theorem generate_mirrors_both_sources :
    ∃ market, generate .standard mirrorCatalog ⟨"/proxy", false⟩ "gaps" gapValues = .ok market ∧
      market.queries.length = 2 ∧
      (∀ query, market.queries[0]? = some query →
        query.query = none ∧ query.endpoint = "/proxy/a" ∧
          query.headers = some (Dict.ofList [("X-Side", "\x7b\x7bside\x7d\x7d")]) ∧
          query.shape = "\x7b\"components\":[\x7b\"internalType\":\"uint256\"," ++
            "\"name\":\"outcomeIdx\",\"type\":\"uint256\"\x7d]," ++
            "\"name\":\"outcome\",\"type\":\"tuple\"\x7d") ∧
      ∀ query rendered, market.queries[1]? = some query → query.query = some rendered →
        query.name = "second" ∧ rendered.keys = ["from", "to"] ∧
          rendered.find? "from" = some "\x7bup\x7d" ∧ query.shape? = some thornyShape := by
  have found : mirrorCatalog.find? "gaps" = some mirrorTemplate := rfl
  have parsed : attestationInstant (gapValues.find? Token.attestationTime) = .ok ⟨0, 0⟩ := rfl
  have fits : mirrorTemplate.schema.PlacesFit := by decide
  let filled : Binding := Binding.atInstant ⟨0, 0⟩ mirrorTemplate.schema gapValues "/proxy"
  have generated : generate .standard mirrorCatalog ⟨"/proxy", false⟩ "gaps" gapValues =
      .ok (rendered ⟨filled, false⟩ mirrorTemplate) :=
    (generate_of_ready found fits parsed (by decide +kernel)).trans
      (ofTemplate_lenient filled mirrorTemplate)
  obtain ⟨template, binding, isFound, made, -, -, -, -, count, mirrors⟩ :=
    generate_mirrors_template _ _ _ _ _ _ generated
  cases Option.some.inj (isFound.symm.trans found)
  have same : binding = filled :=
    Except.ok.inj (made.symm.trans (Binding.make_of_fits fits parsed))
  -- The two texts are filled before the binding is taken apart: there they are closed terms.
  have endpoint : Renderer.apply ⟨filled, false⟩ "\x7b\x7bapiProxyPrefix\x7d\x7d/a" =
      "/proxy/a" := by decide +kernel
  have parameter : Renderer.apply ⟨filled, false⟩ "\x7b\x7b\x7bside\x7d\x7d\x7d" =
      "\x7bup\x7d" := by decide +kernel
  rw [← same] at endpoint parameter
  refine ⟨_, generated, count, fun query isQuery => ?_, fun query parameters isQuery present => ?_⟩
  · have first := mirrors 0 _ query rfl isQuery
    exact ⟨first.bare.2 (.inr rfl), first.endpoint.trans endpoint, first.headers,
      first.shapeText.trans (by decide +kernel)⟩
  · have second := mirrors 1 _ query rfl isQuery
    obtain ⟨declared, isDeclared, sameKeys, values⟩ := second.parameters parameters present
    cases isDeclared
    exact ⟨second.name, sameKeys.trans (by decide +kernel),
      (values "from" "\x7b\x7b\x7bside\x7d\x7d\x7d" rfl).trans (congrArg some parameter),
      second.shape⟩

end Market

end PredictionMarket
