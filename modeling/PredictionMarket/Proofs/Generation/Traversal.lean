import PredictionMarket.Market
import PredictionMarket.Proofs.Binding.Tokens
import PredictionMarket.Proofs.Rendering.Fields

/-!
# Rendering field by field

Generation renders the fields of a template one after the other and stops at the first one
that fails. `Market.ofTemplate_eq` says so at once: the result is the first failure in the
order of `Template.fields`, or else the market in which every field is rendered. Generation
as a whole is settled by the three `Market.generate_of` equations: a template and an instant are
found first, then the grouped numbers are written, the keys are compiled, and the fields are
rendered.
-/

namespace PredictionMarket

open Failure (settle settle_bind settle_map)

namespace Query

/-- The parameters of a query, each with its rendered value. -/
def renderedParameters (renderer : Renderer) (source : DataSource) : List (String × String) :=
  source.queryEntries.map fun entry => (entry.1, renderer.apply entry.2)

/-- The query of a data source with every field rendered. -/
def rendered (renderer : Renderer) (source : DataSource) : Query where
  name := source.name
  method := source.method
  endpoint := renderer.apply source.endpoint
  query :=
    if (renderedParameters renderer source).isEmpty then none
    else some (Dict.ofList (renderedParameters renderer source))
  headers := source.headers
  body := source.body
  rule := renderer.apply source.rule
  shape := source.shape.text

/-- Query parameters are rendered unless one of them fails. -/
theorem renderParameters_eq (renderer : Renderer) (position : Nat)
    (entries : List (String × String)) :
    renderParameters renderer position entries =
      settle
        (renderer.firstFailure? (entries.map fun entry =>
          (sourceLabel position (DataSource.queryPart entry.1), entry.2)))
        (entries.map fun entry => (entry.1, renderer.apply entry.2)) := by
  induction entries with
  | nil => rfl
  | cons entry rest inductionHypothesis =>
    rw [renderParameters, Renderer.applyField_eq, inductionHypothesis]
    simp only [settle_map, settle_bind, List.map_cons, Renderer.firstFailure?_cons]

/-- A data source becomes its query unless one of its fields fails. -/
theorem ofSource_eq (renderer : Renderer) (position : Nat) (source : DataSource) :
    ofSource renderer position source =
      settle (renderer.firstFailure? (source.fields position)) (rendered renderer source) := by
  have fieldByField : renderer.firstFailure? (source.fields position) =
      (renderer.failure? (sourceLabel position "endpoint", source.endpoint)).or
        ((renderer.firstFailure? (source.queryEntries.map fun entry =>
          (sourceLabel position (DataSource.queryPart entry.1), entry.2))).or
        (renderer.failure? (sourceLabel position "extractionRule", source.rule))) := by
    rw [DataSource.fields, List.cons_append, Renderer.firstFailure?_cons,
      Renderer.firstFailure?_append, Renderer.firstFailure?_cons]
    simp [Renderer.firstFailure?]
  rw [fieldByField, ofSource, Renderer.applyField_eq, renderParameters_eq,
    Renderer.applyField_eq]
  simp only [settle_map, settle_bind]
  rfl

/-- The data sources behind a position become their queries, in their order, unless a field
of one of them fails. -/
theorem ofSourcesFrom_eq (renderer : Renderer) (position : Nat) (sources : List DataSource) :
    ofSourcesFrom renderer position sources =
      settle
        (renderer.firstFailure?
          ((sources.zipIdx position).flatMap fun source => source.1.fields source.2))
        (sources.map (rendered renderer)) := by
  induction sources generalizing position with
  | nil => rfl
  | cons source rest inductionHypothesis =>
    rw [ofSourcesFrom, ofSource_eq, inductionHypothesis]
    simp only [settle_map, settle_bind, List.map_cons, List.zipIdx_cons, List.flatMap_cons,
      Renderer.firstFailure?_append]

/-- The query parameters; none are the same as an empty list. -/
def queryEntries (query : Query) : List (String × String) :=
  match query.query with
  | some parameters => parameters.entries
  | none => []

/-- The parameters of a rendered query are those of its data source, unless there are none. -/
theorem query_rendered (renderer : Renderer) (source : DataSource) :
    (rendered renderer source).query =
      (source.query.filter fun declared => !declared.isEmpty).map
        (Dict.map renderer.apply) := by
  unfold rendered renderedParameters DataSource.queryEntries
  dsimp only
  cases source.query with
  | none => rfl
  | some declared =>
    dsimp only
    rw [List.isEmpty_map, Option.filter_some]
    cases noEntries : declared.entries.isEmpty with
    | true => simp [Dict.isEmpty, noEntries]
    | false =>
      have again : Dict.ofList (declared.entries.map fun entry =>
          (entry.1, renderer.apply entry.2)) = declared.map renderer.apply :=
        Dict.ofList_entries (declared.map renderer.apply)
      simp [Dict.isEmpty, noEntries, again]

/-- A rendered query has the parameters of its data source, each with its rendered value. -/
theorem queryEntries_rendered (renderer : Renderer) (source : DataSource) :
    (rendered renderer source).queryEntries = renderedParameters renderer source := by
  rw [queryEntries, query_rendered, renderedParameters, DataSource.queryEntries]
  cases source.query with
  | none => rfl
  | some declared =>
    rw [Option.filter_some]
    cases noEntries : declared.isEmpty with
    | true =>
      cases Dict.isEmpty_iff.1 noEntries
      rfl
    | false => rfl

/-- The texts of a query that are rendered. -/
def texts (query : Query) : List String :=
  query.endpoint :: query.queryEntries.map (·.2) ++ [query.rule]

/-- The texts of a rendered query are its fields, each rendered. -/
theorem texts_rendered (renderer : Renderer) (source : DataSource) (position : Nat) :
    (rendered renderer source).texts =
      (source.fields position).map fun field => renderer.apply field.2 := by
  rw [texts, queryEntries_rendered, renderedParameters, DataSource.fields, List.map_append,
    List.map_cons, List.map_map, List.map_map]
  rfl

end Query

namespace Market

/-- The market of a template with every field rendered. -/
def rendered (renderer : Renderer) (template : Template) : Market where
  templateId := template.id
  question := renderer.apply template.question
  resolution := renderer.apply template.resolution
  queries := template.sources.map (Query.rendered renderer)
  defaults := template.defaults

/-- A template becomes its market unless one of its fields fails; then the first one that
does decides. -/
theorem ofTemplate_eq (renderer : Renderer) (template : Template) :
    ofTemplate renderer template =
      settle (renderer.firstFailure? template.fields) (rendered renderer template) := by
  rw [ofTemplate, Renderer.applyField_eq, Renderer.applyField_eq, Query.ofSources,
    Query.ofSourcesFrom_eq]
  simp only [settle_map, settle_bind, Template.fields, Renderer.firstFailure?_cons]
  rfl

/-- The texts of a market that are rendered. -/
def texts (market : Market) : List String :=
  market.question :: market.resolution :: market.queries.flatMap Query.texts

/-- The queries of rendered data sources have their fields as texts, each rendered. -/
theorem flatMap_texts_rendered (renderer : Renderer) (position : Nat)
    (sources : List DataSource) :
    (sources.map (Query.rendered renderer)).flatMap Query.texts =
      ((sources.zipIdx position).flatMap fun source => source.1.fields source.2).map
        fun field => renderer.apply field.2 := by
  induction sources generalizing position with
  | nil => rfl
  | cons source rest inductionHypothesis =>
    rw [List.map_cons, List.flatMap_cons, List.zipIdx_cons, List.flatMap_cons, List.map_append,
      Query.texts_rendered renderer source position, inductionHypothesis (position + 1)]

/-- The texts of a rendered market are the fields of its template, each rendered. -/
theorem texts_rendered (renderer : Renderer) (template : Template) :
    (rendered renderer template).texts =
      template.fields.map fun field => renderer.apply field.2 := by
  rw [texts, rendered, flatMap_texts_rendered renderer 0, Template.fields]
  rfl

section Generate

variable {engine : PatternEngine} {catalog : Catalog} {options : GenerationOptions} {id : String}
  {values : Variables}

/-- Without a template there is no market. -/
theorem generate_of_missing (missing : catalog.find? id = none) :
    generate engine catalog options id values = .error (.templateNotFound id) := by
  rw [generate, missing]

variable {template : Template}

/-- Without an instant there is no market. -/
theorem generate_of_fault {fault : AttestationFault} (found : catalog.find? id = some template)
    (faulty : attestationInstant (values.find? Token.attestationTime) = .error fault) :
    generate engine catalog options id values = .error (.invalidAttestation fault) := by
  rw [generate, found]
  dsimp only
  rw [Binding.make_of_fault faulty]
  rfl

variable {instant : Calendar.Instant}

/-- Why a template that is found is not rendered at an instant: a grouped number cannot be
written, the keys cannot be compiled, or a field fails, in this order. -/
def fault? (engine : PatternEngine) (options : GenerationOptions) (values : Variables)
    (template : Template) (binding : Binding) : Option Failure :=
  (Binding.formatFault? template.schema values).or <|
    (Renderer.patternFault? engine binding).or <|
      Renderer.firstFailure? ⟨binding, options.strict⟩ template.fields

/-- With a template and an instant the market is the rendered template, unless there is a
fault. -/
theorem generate_of_parsed (found : catalog.find? id = some template)
    (parsed : attestationInstant (values.find? Token.attestationTime) = .ok instant) :
    generate engine catalog options id values =
      settle
        (fault? engine options values template
          (.atInstant instant template.schema values options.proxy))
        (rendered ⟨.atInstant instant template.schema values options.proxy, options.strict⟩
          template) := by
  rw [generate, found]
  dsimp only
  rw [Binding.make_of_parsed parsed]
  simp only [Renderer.make_eq, ofTemplate_eq, settle_bind, fault?]

section Ready

variable {proxy : String} {strict : Bool} (found : catalog.find? id = some template)
  (fits : template.schema.PlacesFit)
  (parsed : attestationInstant (values.find? Token.attestationTime) = .ok instant)

include found fits parsed

/-- With writable numbers and a pattern the fields of the template decide. -/
theorem generate_of_ready
    (admitted : engine.admits (Binding.atInstant instant template.schema values proxy) = true) :
    generate engine catalog ⟨proxy, strict⟩ id values =
      ofTemplate ⟨.atInstant instant template.schema values proxy, strict⟩ template := by
  rw [generate_of_parsed found parsed, fault?, Binding.formatFault?_of_fits fits,
    Renderer.patternFault?, if_pos admitted, ofTemplate_eq]
  rfl

/-- With writable numbers and no pattern nothing is rendered. -/
theorem generate_of_refused
    (refused : engine.admits (Binding.atInstant instant template.schema values proxy) = false) :
    generate engine catalog ⟨proxy, strict⟩ id values = .error .patternTooLarge := by
  rw [generate_of_parsed found parsed, fault?, Binding.formatFault?_of_fits fits,
    Renderer.patternFault?, refused]
  rfl

end Ready

/-- A template that is found and rendered at an instant has no fault. -/
theorem fault?_eq_none_iff {binding : Binding} :
    fault? engine options values template binding = none ↔
      Binding.formatFault? template.schema values = none ∧ engine.admits binding = true ∧
        Renderer.firstFailure? ⟨binding, options.strict⟩ template.fields = none := by
  rw [fault?, Option.or_eq_none_iff, Option.or_eq_none_iff, Renderer.patternFault?]
  simp

/-- A market that is generated is its template rendered under the binding of an instant, which
has no fault. -/
theorem exists_of_generate {market : Market}
    (generated : generate engine catalog options id values = .ok market) :
    ∃ template instant, catalog.find? id = some template ∧
      attestationInstant (values.find? Token.attestationTime) = .ok instant ∧
      fault? engine options values template
        (.atInstant instant template.schema values options.proxy) = none ∧
      market = rendered ⟨.atInstant instant template.schema values options.proxy,
        options.strict⟩ template := by
  cases found : catalog.find? id with
  | none =>
    rw [generate_of_missing found] at generated
    cases generated
  | some template =>
    cases parsed : attestationInstant (values.find? Token.attestationTime) with
    | error fault =>
      rw [generate_of_fault found parsed] at generated
      cases generated
    | ok instant =>
      rw [generate_of_parsed found parsed, Failure.settle_eq_ok_iff] at generated
      exact ⟨template, instant, rfl, rfl, generated.1, generated.2.symm⟩

/-- A fault is neither an unknown identifier nor an invalid attestation time. -/
theorem late_of_fault? {binding : Binding} {failure : Failure}
    (fails : fault? engine options values template binding = some failure) :
    (∀ other, failure ≠ .templateNotFound other) ∧
      ∀ fault, failure ≠ .invalidAttestation fault := by
  rcases Option.or_eq_some_iff.1 fails with format | ⟨-, late⟩
  · obtain ⟨places, rfl⟩ := Binding.tooManyPlaces_of_formatFault? format
    exact ⟨fun _ => nofun, fun _ => nofun⟩
  · rcases Option.or_eq_some_iff.1 late with pattern | ⟨-, field⟩
    · obtain ⟨-, same⟩ := Option.ite_none_left_eq_some.1 pattern
      cases same
      exact ⟨fun _ => nofun, fun _ => nofun⟩
    · obtain ⟨shown, label, rfl⟩ := Renderer.unresolved_of_firstFailure? field
      exact ⟨fun _ => nofun, fun _ => nofun⟩

/-- An identifier is unknown exactly when it finds no template. -/
theorem generate_eq_templateNotFound_iff :
    generate engine catalog options id values = .error (.templateNotFound id) ↔
      catalog.find? id = none := by
  refine ⟨fun fails => ?_, generate_of_missing⟩
  cases found : catalog.find? id with
  | none => rfl
  | some template =>
    cases outcome : attestationInstant (values.find? Token.attestationTime) with
    | error fault =>
      rw [generate_of_fault found outcome] at fails
      cases fails
    | ok instant =>
      rw [generate_of_parsed found outcome, Failure.settle_eq_error_iff] at fails
      exact absurd rfl ((late_of_fault? fails).1 id)

/-- When a template is found, the attestation time is invalid exactly when its value
denotes no instant. -/
theorem generate_eq_invalidAttestation_iff (found : catalog.find? id = some template)
    {fault : AttestationFault} :
    generate engine catalog options id values = .error (.invalidAttestation fault) ↔
      attestationInstant (values.find? Token.attestationTime) = .error fault := by
  refine ⟨fun fails => ?_, generate_of_fault found⟩
  cases outcome : attestationInstant (values.find? Token.attestationTime) with
  | error other =>
    rw [generate_of_fault found outcome] at fails
    cases fails
    rfl
  | ok instant =>
    rw [generate_of_parsed found outcome, Failure.settle_eq_error_iff] at fails
    exact absurd rfl ((late_of_fault? fails).2 fault)

end Generate

end Market

end PredictionMarket
