import PredictionMarket.Proofs.Generation.StrictMode
import PredictionMarket.Proofs.Template.RoundTrip

/-!
# Markets written and read

Queries and markets have layouts as the records of templates do. The bodies of a generated
market are those of its template, so a market that is generated from a template that was read
is read back from what is written of it.
-/

namespace PredictionMarket

open Datum

namespace Query

/-- The layout of a query. -/
def layout : Layout := [
  ("name", .required), ("method", .required), ("endpoint", .required),
  ("queryParams", .optional), ("headers", .optional), ("body", .optional),
  ("extractionRule", .required), ("resultShape", .required)]

/-- The values of the fields of a query. -/
def entries (query : Query) : List (String × Option Json) := [
  ("name", some (.string query.name)), ("method", some (.string query.method.name)),
  ("endpoint", some (.string query.endpoint)), ("queryParams", query.query.map Json.ofTexts),
  ("headers", query.headers.map Json.ofTexts), ("body", query.body),
  ("extractionRule", some (.string query.rule)), ("resultShape", some (.string query.shape))]

/-- No field of a query is listed twice. -/
theorem distinct : layout.Distinct := by decide

/-- A query is written as its entries. -/
theorem toJson_eq (query : Query) : query.toJson = .object (written query.entries) := by
  simp only [toJson, entries, written_cons, memberOf_eq, List.append_assoc]
  simp [written]

/-- A query as it is read in an arrangement. -/
def arranged (arrangement : Arrangement) (query : Query) : Query :=
  { query with body := arrangement.given query.body }

/-- A query is read back. -/
theorem read_apply (arrangement : Arrangement) (query : Query) :
    read (arrangement.apply query.toJson) = some (query.arranged arrangement) := by
  obtain ⟨members, shape, found⟩ := arrangement.exists_members query.entries distinct
  simp only [entries, List.forall_mem_cons, Option.map_some, arrangement.string,
    Option.map_map] at found
  obtain ⟨name, method, endpoint, parameters, headers, body, rule, resultShape, -⟩ := found
  rw [toJson_eq, shape]
  simp only [read, record_object, requiredField_of name, text_string, requiredField_of method,
    Method.read_name, requiredField_of endpoint, optionalField_texts arrangement parameters,
    optionalField_texts arrangement headers, optionalField_json body, requiredField_of rule,
    requiredField_of resultShape, Option.bind_eq_bind, Option.bind_some]
  rfl

/-- Queries follow their layout. -/
theorem followsLayout : FollowsLayout read toJson layout := by
  refine followsLayout_of (fun _ => rfl) distinct (fun members => ?_) toJson_eq
    (fun value query isRead => ?_) fun arrangement value query kept isRead => ?_
  · have same := layout.membersNamed_settled distinct members
    simp only [layout, List.forall_mem_cons] at same ⊢
    obtain ⟨name, method, endpoint, parameters, headers, body, rule, shape, -⟩ := same
    simp only [read, record_object, requiredField_settle name, requiredField_settle method,
      requiredField_settle endpoint, optionalField_settle parameters,
      optionalField_settle headers, optionalField_settle body, requiredField_settle rule,
      requiredField_settle shape, Option.bind_eq_bind, Option.bind_some]
  · have plain := Arrangement.asWritten.nesting.query_of_read 0 rfl isRead
    have notNull : query.body ≠ some .null := fun null => (plain _ null).1 rfl
    simp [layout, entries, FieldRule.Allows, notNull, Json.ofTexts, Json.ofDict]
  · rw [read_apply, arranged,
      arrangement.given_of_kept (arrangement.nesting.query_of_read 0 kept isRead)]

end Query

namespace Market

/-- The layout of a market. -/
def layout : Layout := [
  ("templateId", .required), ("question", .required), ("resolutionDefinition", .required),
  ("dataSources", .required), ("defaults", .required)]

/-- The values of the fields of a market. -/
def entries (market : Market) : List (String × Option Json) := [
  ("templateId", some (.string market.templateId)), ("question", some (.string market.question)),
  ("resolutionDefinition", some (.string market.resolution)),
  ("dataSources", some (.array (market.queries.map Query.toJson))),
  ("defaults", some market.defaults.toJson)]

/-- No field of a market is listed twice. -/
theorem distinct : layout.Distinct := by decide

/-- A market is written as its entries. -/
theorem toJson_eq (market : Market) : market.toJson = .object (written market.entries) := rfl

/-- A market as it is read in an arrangement. -/
def arranged (arrangement : Arrangement) (market : Market) : Market :=
  { market with queries := market.queries.map (Query.arranged arrangement) }

/-- A market is read back. -/
theorem read_apply (arrangement : Arrangement) (market : Market) :
    read (arrangement.apply market.toJson) = some (market.arranged arrangement) := by
  obtain ⟨members, shape, found⟩ := arrangement.exists_members market.entries distinct
  simp only [entries, List.forall_mem_cons, Option.map_some, arrangement.string] at found
  obtain ⟨templateId, question, resolution, listed, defaults, -⟩ := found
  have queries : list Query.read
      (arrangement.apply (.array (market.queries.map Query.toJson))) =
        some (market.queries.map (Query.arranged arrangement)) :=
    list_apply arrangement fun query _ => query.read_apply arrangement
  rw [toJson_eq, shape]
  simp only [read, record_object, requiredField_of templateId, text_string,
    requiredField_of question, requiredField_of resolution, requiredField_of listed, queries,
    requiredField_of defaults, MarketDefaults.read_apply, Option.bind_eq_bind, Option.bind_some]
  rfl

/-- A market whose bodies stay as they are is read as it is. -/
theorem arranged_of_kept {arrangement : Arrangement} {market : Market}
    (bodies : ∀ query ∈ market.queries, ∀ json ∈ query.body,
      json ≠ .null ∧ arrangement.apply json = json) :
    market.arranged arrangement = market := by
  have queries : market.queries.map (Query.arranged arrangement) = market.queries := by
    refine (List.map_congr_left fun query listed => ?_).trans (List.map_id _)
    rw [Query.arranged, arrangement.given_of_kept (bodies query listed)]
    rfl
  rw [arranged, queries]

/-- Markets follow their layout. -/
theorem followsLayout : FollowsLayout read toJson layout := by
  refine followsLayout_of (fun _ => rfl) distinct (fun members => ?_) toJson_eq
    (fun _ _ _ => by simp [layout, entries, FieldRule.Allows])
    fun arrangement value market kept isRead => ?_
  · have same := layout.membersNamed_settled distinct members
    simp only [layout, List.forall_mem_cons] at same ⊢
    obtain ⟨templateId, question, resolution, queries, defaults, -⟩ := same
    simp only [read, record_object, requiredField_settle templateId,
      requiredField_settle question, requiredField_settle resolution,
      requiredField_settle queries, requiredField_settle defaults, Option.bind_eq_bind,
      Option.bind_some]
  · rw [read_apply, arranged_of_kept (arrangement.nesting.market_of_read 0 kept isRead)]

/-- The bodies of a generated market are bodies of its template. -/
theorem exists_source_of_generate {engine : PatternEngine} {catalog : Catalog}
    {options : GenerationOptions} {id : String} {values : Variables} {market : Market}
    (generated : generate engine catalog options id values = .ok market) :
    ∃ template, catalog.find? id = some template ∧
      ∀ query ∈ market.queries, ∃ source ∈ template.sources, query.body = source.body := by
  obtain ⟨template, instant, found, -, -, rfl⟩ := exists_of_generate generated
  refine ⟨template, found, fun query listed => ?_⟩
  obtain ⟨source, isSource, rfl⟩ := List.mem_map.1 listed
  exact ⟨source, isSource, rfl⟩

/-- A market that is generated from a template that was read is read back, in every arrangement
in which the template's value stays as it is. -/
theorem read_generated (arrangement : Arrangement) {engine : PatternEngine} {catalog : Catalog}
    {options : GenerationOptions} {id : String} {values : Variables} {json : Json}
    {template : Template} {market : Market} (kept : arrangement.apply json = json)
    (isRead : Template.read json = some template) (found : catalog.find? id = some template)
    (generated : generate engine catalog options id values = .ok market) :
    read (arrangement.apply market.toJson) = some market := by
  obtain ⟨other, isFound, bodies⟩ := exists_source_of_generate generated
  cases Option.some.inj (found.symm.trans isFound)
  have plain := (arrangement.nesting.template_of_read 0 kept isRead).2
  rw [read_apply, arranged_of_kept fun query listed => ?_]
  obtain ⟨source, isSource, same⟩ := bodies query listed
  rw [same]
  exact plain source isSource

end Market

/-- What is read of a template, and what is generated from it, does not drift when it is written
and read, whether the members of objects stand where they were written or by ascending name. A
template that was read is read back, so templates that are written alike are the same, and so is
every market that is generated from it. Every record in them follows its layout: what is left out
when it is written is what has a default when it is read, and unknown fields are dropped. -/
theorem records_do_not_drift :
    (∀ (json : Json) (template : Template), Template.read json = some template →
      Template.read template.toJson = some template ∧
        (json.normal = json → Template.read template.toJson.normal = some template)) ∧
    (∀ (first second : Json) (left right : Template), Template.read first = some left →
      Template.read second = some right →
        (left.toJson = right.toJson → left = right) ∧
          (first.normal = first → second.normal = second →
            left.toJson.normal = right.toJson.normal → left = right)) ∧
    (∀ (engine : PatternEngine) (catalog : Catalog) (options : GenerationOptions) (id : String)
      (values : Variables) (json : Json) (template : Template) (market : Market),
      Template.read json = some template → catalog.find? id = some template →
        Market.generate engine catalog options id values = .ok market →
          Market.read market.toJson = some market ∧
            (json.normal = json → Market.read market.toJson.normal = some market)) ∧
    FollowsLayout Template.read Template.toJson Template.layout ∧
    FollowsLayout Variable.read Variable.toJson Variable.layout ∧
    FollowsLayout SelectOption.read SelectOption.toJson SelectOption.layout ∧
    FollowsLayout DataSource.read DataSource.toJson DataSource.layout ∧
    FollowsLayout ResultShape.read ResultShape.toJson ResultShape.layout ∧
    FollowsLayout ResultField.read ResultField.toJson ResultField.layout ∧
    FollowsLayout MarketDefaults.read MarketDefaults.toJson MarketDefaults.layout ∧
    FollowsLayout Outcome.read Outcome.toJson Outcome.layout ∧
    FollowsLayout Market.read Market.toJson Market.layout ∧
    FollowsLayout Query.read Query.toJson Query.layout := by
  refine ⟨fun json template isRead => ⟨?_, fun kept => ?_⟩,
    fun first second left right isLeft isRight =>
      ⟨fun same => ?_, fun keptLeft keptRight same => ?_⟩,
    fun engine catalog options id values json template market isRead found generated =>
      ⟨?_, fun kept => ?_⟩,
    Template.followsLayout, Variable.followsLayout, SelectOption.followsLayout,
    DataSource.followsLayout, ResultShape.followsLayout, ResultField.followsLayout,
    MarketDefaults.followsLayout, Outcome.followsLayout, Market.followsLayout,
    Query.followsLayout⟩
  · exact Template.followsLayout.read_write .asWritten json template rfl isRead
  · exact Template.followsLayout.read_write .byName json template kept isRead
  · exact Template.followsLayout.write_injective .asWritten rfl rfl isLeft isRight same
  · exact Template.followsLayout.write_injective .byName keptLeft keptRight isLeft isRight same
  · exact Market.read_generated .asWritten rfl isRead found generated
  · exact Market.read_generated .byName kept isRead found generated

/-- A template with a field too many, in which much is left out or said to be absent, and with a
data source that is given as the values of its fields. -/
def looseJson : Json := .object [
  ("comment", .null),
  ("dataSources", .array [
    .object [("body", .object [("page", .null)]), ("endpoint", .string "/a"),
      ("extractionRule", .string "0"), ("headers", .null), ("name", .string "first")],
    .array [.string "second", .string "POST", .string "/b", .null, .null, .null, .string "1"]]),
  ("defaults", .object [("collateralToken", .string "USDC"),
    ("consensusThresholdPct", .ofUInt8 60), ("marketCapPct", .ofUInt8 50),
    ("outcomes", .array [])]),
  ("id", .string "loose"), ("name", .string "Loose"), ("question", .string "Up?"),
  ("resolutionDefinition", .string "It goes up."),
  ("variables", .object [("side", .object [("colour", .string "red"), ("default", .null),
    ("options", .array []), ("type", .object [("select", .null)])])])]

/-- The template that is meant. -/
def looseTemplate : Template where
  id := "loose"
  name := "Loose"
  description := ""
  category := ""
  image := ""
  schema := Dict.ofList [("side", {
    kind := .select, required := false, label := none, fallback := none, decimals := none,
    options := [], entity := none })]
  question := "Up?"
  resolution := "It goes up."
  sources := [
    { Builtin.source "first" "/a" "0" with body := some (.object [("page", .null)]) },
    { Builtin.source "second" "/b" "1" with method := .post }]
  defaults := {
    outcomes := [], consensusThreshold := 60, collateralToken := "USDC", marketCap := 50 }

/-- The catalog of that template. -/
def looseCatalog : Catalog := ⟨[looseTemplate], _, rfl⟩

/-- The template does not drift, and neither does the market at the first instant of 1970. -/
theorem loose_records_do_not_drift :
    Template.read looseJson = some looseTemplate ∧
    Template.read looseTemplate.toJson = some looseTemplate ∧
    Template.read looseTemplate.toJson.normal = some looseTemplate ∧
    ∃ market,
      Market.generate .standard looseCatalog ⟨"/proxy", false⟩ "loose" Market.gapValues =
        .ok market ∧
      market.queries.length = 2 ∧ Market.read market.toJson = some market ∧
        Market.read market.toJson.normal = some market := by
  have isRead : Template.read looseJson = some looseTemplate := rfl
  have kept : looseJson.normal = looseJson := rfl
  have found : looseCatalog.find? "loose" = some looseTemplate := rfl
  have parsed : attestationInstant (Market.gapValues.find? Token.attestationTime) =
      .ok ⟨0, 0⟩ := rfl
  let filled := Binding.atInstant ⟨0, 0⟩ looseTemplate.schema Market.gapValues "/proxy"
  have generated :
      Market.generate .standard looseCatalog ⟨"/proxy", false⟩ "loose" Market.gapValues =
        .ok (Market.rendered ⟨filled, false⟩ looseTemplate) :=
    (Market.generate_of_ready found (by decide) parsed (by decide +kernel)).trans
      (Market.ofTemplate_lenient filled looseTemplate)
  obtain ⟨templateBack, -, marketBack, -⟩ := records_do_not_drift
  obtain ⟨back, normalBack⟩ := templateBack looseJson looseTemplate isRead
  obtain ⟨isMarket, normalMarket⟩ :=
    marketBack _ _ _ _ _ looseJson looseTemplate _ isRead found generated
  exact ⟨isRead, back, normalBack kept, _, generated, rfl, isMarket, normalMarket kept⟩

end PredictionMarket
