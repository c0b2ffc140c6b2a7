import PredictionMarket.CommandLine.Run
import PredictionMarket.Proofs.Generation.Printed
import PredictionMarket.Proofs.Generation.StrictMode

/-!
# What the command `generate` prints

The command collects variables, generates a market and prints it; the first step that fails ends
it with its failure, and nothing is printed. What is printed can be read: it is one JSON text
with a line break behind it, and the market that is read of the text is the one that was
generated, but for a body that is `null`.
-/

namespace PredictionMarket

open Returning CommandLine

namespace VariableSources

/-- Assignments are read from left to right and then added. -/
theorem assign_eq (values : Variables) (assignments : List String) :
    assign values assignments = (assignments.mapM readAssignment).map fun assigned =>
      assigned.foldl (fun dict pair => dict.insert pair.1 pair.2) values := by
  induction assignments generalizing values with
  | nil => rfl
  | cons assignment rest inductionHypothesis =>
    rw [assign, List.mapM_cons]
    cases readAssignment assignment with
    | error failure => rfl
    | ok pair =>
      refine (inductionHypothesis (values.insert pair.1 pair.2)).trans ?_
      cases rest.mapM readAssignment <;> rfl

/-- The collected variables bind each name to the value of the last entry that has it, where the
entries of the file come first, then those of the argument, then the assignments. -/
theorem collect_eq (files : Files) (sources : VariableSources) :
    sources.collect files = do
      let fromFile ← sources.fromFile files
      let fromJson ← sources.fromJson
      let assigned ← sources.assignments.mapM readAssignment
      return Dict.ofList (fromFile.entries ++ fromJson.entries ++ assigned) := by
  unfold collect
  cases sources.fromFile files with
  | error failure => rfl
  | ok fromFile =>
    cases sources.fromJson with
    | error failure => rfl
    | ok fromJson =>
      have entries : ∀ assigned : List (String × Json),
          Dict.ofList (fromFile.entries ++ fromJson.entries ++ assigned) =
            assigned.foldl (fun dict pair => dict.insert pair.1 pair.2)
              (fromFile.overlay fromJson) := fun assigned => by
        rw [Dict.ofList, List.foldl_append, List.foldl_append, ← Dict.ofList,
          Dict.ofList_entries]
        rfl
      refine (assign_eq _ _).trans ?_
      cases assignments : sources.assignments.mapM readAssignment with
      | error failure => rfl
      | ok assigned => exact congrArg Except.ok (entries assigned).symm

end VariableSources

/-- The catalog of a deployment is the one that its settings name. -/
theorem Deployment.catalog_of_load {files : Files} {named selected environment : Option String}
    {deployment : Deployment} (loaded : load files named selected environment = .ok deployment) :
    deployment.settings.catalog files = .ok deployment.catalog := by
  have returned : Returns (load files named selected environment) deployment := loaded
  obtain ⟨found, -, returned⟩ := exists_of_bind returned
  obtain ⟨settings, -, returned⟩ := exists_of_bind returned
  obtain ⟨catalog, isCatalog, returned⟩ := exists_of_bind returned
  cases eq_of_pure returned
  exact isCatalog

/-- The bodies of a market that a deployment generates have the room that a catalog file leaves
them. -/
theorem Deployment.bodiesInRoom {files : Files} {named selected environment : Option String}
    {deployment : Deployment} (loaded : load files named selected environment = .ok deployment)
    {engine : PatternEngine} {options : GenerationOptions} {id : String} {values : Variables}
    {market : Market}
    (generated : Market.generate engine deployment.catalog options id values = .ok market) :
    ∀ query ∈ market.queries, ∀ body ∈ query.body, body.InRoom bodyRoom := by
  have inRoom := Catalog.bodiesInRoom_of_catalog (catalog_of_load loaded)
  obtain ⟨template, found, sources⟩ := Market.exists_source_of_generate generated
  have listed := (Catalog.find?_eq_some_iff.1 found).1
  intro query isQuery body isBody
  obtain ⟨source, isSource, same⟩ := sources query isQuery
  exact inRoom template listed source isSource body (same ▸ isBody)

namespace CommandLine

section Generate

variable {engine : PatternEngine} {files : Files}
  {selected settingsPath environment : Option String} {id : String}
  {sources : VariableSources} {strict : Bool} {deployment : Deployment}
  (loaded : Deployment.load files settingsPath selected environment = .ok deployment)
include loaded

/-- Without variables the command fails as their collection does. -/
theorem run_of_collect_error {failure : Failure}
    (fails : sources.collect files = .error failure) :
    Invocation.run engine files selected ⟨settingsPath, environment, .generate id sources strict⟩ =
      ⟨"", some failure⟩ := by
  have generated : deployment.generate engine files id sources strict = .error failure := by
    rw [Deployment.generate, fails]
    rfl
  simp only [Invocation.run, Invocation.deployment, loaded, Command.run, generated]
  rfl

/-- With variables the command prints the generated market, or fails as the generation does. -/
theorem run_of_collect_ok {values : Variables} (collected : sources.collect files = .ok values) :
    Invocation.run engine files selected ⟨settingsPath, environment, .generate id sources strict⟩ =
      .ofResult ((Market.generate engine deployment.catalog
        ⟨deployment.settings.proxy, deployment.settings.strict || strict⟩ id values).map
          fun market : Market => printedJson market.toJson) := by
  have generated : deployment.generate engine files id sources strict =
      Market.generate engine deployment.catalog
        ⟨deployment.settings.proxy, deployment.settings.strict || strict⟩ id values := by
    rw [Deployment.generate, collected]
    rfl
  simp only [Invocation.run, Invocation.deployment, loaded, Command.run, generated]

end Generate

/-- The command `generate` prints the market that is generated. Whatever deployment is loaded and
whatever the arguments are: when the file, the argument or the assignments cannot be read as
variables, when the identifier is unknown, when there is no attestation time or no other binding,
when the keys of the binding cannot be compiled, or when a placeholder is left in strict mode, the
command ends with the failure of the first of these steps and prints nothing. Otherwise it prints
one JSON text and a line break. The market that is read of the text is the one that is generated
with the proxy of the settings, strictly if the settings or the caller say so, from the entries of
file, argument and assignments, of which the last one with a name counts; a body that is `null` is
read as absent. -/
theorem generate_prints_market (engine : PatternEngine) (files : Files)
    (selected settingsPath environment : Option String) (id : String)
    (sources : VariableSources) (strict : Bool) (deployment : Deployment)
    (loaded : Deployment.load files settingsPath selected environment = .ok deployment) :
    let outcome :=
      Invocation.run engine files selected
        ⟨settingsPath, environment, .generate id sources strict⟩
    let options : GenerationOptions :=
      ⟨deployment.settings.proxy, deployment.settings.strict || strict⟩
    (∀ failure, sources.fromFile files = .error failure → outcome = ⟨"", some failure⟩) ∧
    ∀ fromFile, sources.fromFile files = .ok fromFile →
      (∀ failure, sources.fromJson = .error failure → outcome = ⟨"", some failure⟩) ∧
      ∀ fromJson, sources.fromJson = .ok fromJson →
        (∀ failure, sources.assignments.mapM readAssignment = .error failure →
          outcome = ⟨"", some failure⟩) ∧
        ∀ assigned, sources.assignments.mapM readAssignment = .ok assigned →
          let values := Dict.ofList (fromFile.entries ++ fromJson.entries ++ assigned)
          (deployment.catalog.find? id = none →
            outcome = ⟨"", some (.templateNotFound id)⟩) ∧
          (∀ template fault, deployment.catalog.find? id = some template →
            attestationInstant (values.find? Token.attestationTime) = .error fault →
              outcome = ⟨"", some (.invalidAttestation fault)⟩) ∧
          (∀ template failure, deployment.catalog.find? id = some template →
            Binding.make template.schema values options.proxy = .error failure →
              outcome = ⟨"", some failure⟩) ∧
          (∀ template binding, deployment.catalog.find? id = some template →
            Binding.make template.schema values options.proxy = .ok binding →
              (∀ failure, Renderer.make engine binding options.strict = .error failure →
                outcome = ⟨"", some failure⟩) ∧
              ∀ renderer failure, Renderer.make engine binding options.strict = .ok renderer →
                Market.ofTemplate renderer template = .error failure →
                  outcome = ⟨"", some failure⟩) ∧
          (∀ failure, Market.generate engine deployment.catalog options id values =
            .error failure → outcome = ⟨"", some failure⟩) ∧
          ∀ market, Market.generate engine deployment.catalog options id values = .ok market →
            outcome.failure = none ∧ ∃ text, outcome.output = text ++ "\n" ∧
              (market.DoublesReadBack → ∃ json, Json.ofText? text = some json ∧
                Market.read json = some market.withoutNullBodies ∧
                (Market.read json = some market ↔
                  ∀ query ∈ market.queries, query.body ≠ some .null)) := by
  intro outcome options
  have collect := sources.collect_eq files
  refine ⟨fun failure fails => ?_, fun fromFile isFile => ⟨fun failure fails => ?_,
    fun fromJson isJson => ⟨fun failure fails => ?_, fun assigned isAssigned => ?_⟩⟩⟩
  · exact run_of_collect_error loaded (by rw [collect, fails]; rfl)
  · exact run_of_collect_error loaded (by rw [collect, isFile, fails]; rfl)
  · exact run_of_collect_error loaded (by rw [collect, isFile, isJson, fails]; rfl)
  · intro values
    have collected : sources.collect files = .ok values := by
      rw [collect, isFile, isJson, isAssigned]
      rfl
    have fails : ∀ failure,
        Market.generate engine deployment.catalog options id values = .error failure →
          outcome = ⟨"", some failure⟩ := fun failure fails =>
      (run_of_collect_ok loaded collected).trans (by rw [fails]; rfl)
    have stages : ∀ template, deployment.catalog.find? id = some template →
        Market.generate engine deployment.catalog options id values =
          (do
            let binding ← Binding.make template.schema values options.proxy
            let renderer ← Renderer.make engine binding options.strict
            Market.ofTemplate renderer template) := fun template found => by
      rw [Market.generate, found]
    refine ⟨fun missing => fails _ (Market.generate_of_missing missing),
      fun template fault found faulty => fails _ (Market.generate_of_fault found faulty),
      fun template failure found fault => fails _ ?_, fun template binding found bound => ?_,
      fails, fun market generated => ?_⟩
    · rw [stages template found, fault]
      rfl
    · have rest : Market.generate engine deployment.catalog options id values =
          Renderer.make engine binding options.strict >>= fun renderer =>
            Market.ofTemplate renderer template := by
        rw [stages template found, bound]
        rfl
      refine ⟨fun failure fault => fails _ ?_, fun renderer failure made fault => fails _ ?_⟩
      · rw [rest, fault]
        rfl
      · rw [rest, made]
        exact fault
    · have printed : outcome = ⟨printedJson market.toJson, none⟩ :=
        (run_of_collect_ok loaded collected).trans (by rw [generated]; rfl)
      rw [printed]
      refine ⟨rfl, _, rfl, fun doubles => ?_⟩
      obtain ⟨json, isText, isRead⟩ :=
        Market.exists_read_printed (Deployment.bodiesInRoom loaded generated) doubles
      refine ⟨json, isText, isRead, ?_⟩
      rw [isRead, Option.some_inj, Market.withoutNullBodies_eq_iff]

/-- The variables of a match at the first instant of 1970. -/
def matchVariables : Variables :=
  Dict.ofList [("attestationTime", .ofUInt32 0), ("teamA", .string "Red"),
    ("teamB", .string "Green")]

/-- The variables of the match as an argument, and another opponent as an assignment. -/
def matchSources : VariableSources where
  file := none
  json := some (Json.ofDict matchVariables).toCompactText
  assignments := [" teamB =Blue"]

/-- Variables are read of the text that writes them. -/
theorem readVariables_written {source : VariableSource} {values : Variables}
    (readable : Json.Readable Json.mostNested (.ofDict values))
    (inOrder : (Json.ofDict values).normal = .ofDict values) :
    readVariables source (Json.ofDict values).toCompactText = .ok values := by
  have isText : Json.ofText? (Json.ofDict values).toCompactText =
      some (.object values.entries) :=
    (Json.ofText?_toCompactText readable).trans (congrArg some inOrder)
  simp only [readVariables, isText, Dict.ofList_entries]

/-- The argument is read as the variables of the match. -/
theorem fromJson_matchSources : matchSources.fromJson = .ok matchVariables := by
  have readable : Json.Readable Json.mostNested (.ofDict matchVariables) := by
    refine (Json.readable_object_iff : Json.Readable (126 + 1) _ ↔ _).2 fun member listed => ?_
    have listed : member ∈ [("attestationTime", Json.ofUInt32 0), ("teamA", .string "Red"),
      ("teamB", .string "Green")] := listed
    simp only [List.mem_cons, List.not_mem_nil, or_false] at listed
    rcases listed with rfl | rfl | rfl
    · exact Json.readable_integer _
    · exact Json.readable_string _
    · exact Json.readable_string _
  have isRead : readVariables .argument (Json.ofDict matchVariables).toCompactText =
      .ok matchVariables := readVariables_written readable rfl
  rw [VariableSources.fromJson, matchSources]
  exact isRead

/-- The assignment is read as a text. -/
theorem assignments_matchSources :
    matchSources.assignments.mapM readAssignment = .ok [("teamB", .string "Blue")] := by
  have noJson : Json.ofText? "Blue" = none := Option.isNone_iff_eq_none.1 (by decide +kernel)
  have isText : assignedValue "Blue" = .string "Blue" := by rw [assignedValue, noJson]
  have isAssigned : readAssignment " teamB =Blue" = .ok ("teamB", .string "Blue") := by
    have split : splitAssignment? " teamB =Blue".toList =
        some (" teamB ".toList, "Blue".toList) := by decide +kernel
    have trimmed : Text.trim " teamB ".toList = "teamB".toList := by decide +kernel
    rw [readAssignment, split]
    simp only [trimmed, String.ofList_toList, isText]
    rfl
  rw [matchSources, List.mapM_cons, isAssigned]
  rfl

/-- Without files, and in the environment that the environment variable selects, the market of
the match is printed with a body of numbers, and is read back. -/
theorem generate_prints_match :
    ∃ deployment values market,
      Deployment.load (fun _ => .absent) none (some "staging") none = .ok deployment ∧
      values.find? "teamA" = some (.string "Red") ∧ values.find? "teamB" = some (.string "Blue") ∧
      Market.generate .standard deployment.catalog
        ⟨"https://proxy.staging.marketgen.example", false⟩ "esports-match-winner" values =
          .ok market ∧
      market.queries.filterMap (·.body) = [Builtin.firstPage] ∧
      ∃ text json, (Invocation.run .standard (fun _ => .absent) (some "staging")
          ⟨none, none, .generate "esports-match-winner" matchSources false⟩).output =
            text ++ "\n" ∧
        Json.ofText? text = some json ∧ Market.read json = some market := by
  let deployment : Deployment := ⟨{ Settings.standard with environment := .staging }, .builtin⟩
  have loaded : Deployment.load (fun _ => .absent) none (some "staging") none =
      .ok deployment := rfl
  let values := Dict.ofList
    ((Dict.empty : Variables).entries ++ matchVariables.entries ++ [("teamB", .string "Blue")])
  have found : deployment.catalog.find? "esports-match-winner" =
      some Builtin.esportsMatchWinner := rfl
  have isInstant : values.find? Token.attestationTime =
      some (.number (.integer ⟨0, by decide, by decide⟩)) := (Dict.find?_ofList _ _).trans rfl
  have parsed : attestationInstant (values.find? Token.attestationTime) = .ok ⟨0, 0⟩ :=
    (congrArg attestationInstant isInstant).trans rfl
  let filled := Binding.atInstant ⟨0, 0⟩ Builtin.esportsMatchWinner.schema values
    deployment.settings.proxy
  let market := Market.rendered ⟨filled, false⟩ Builtin.esportsMatchWinner
  have generated : Market.generate .standard deployment.catalog
      ⟨deployment.settings.proxy, false⟩ "esports-match-winner" values = .ok market :=
    (Market.generate_of_ready found (by decide) parsed
      (PatternEngine.standard.admits_atInstant (by decide +kernel) _ _ _)).trans
      (Market.ofTemplate_lenient filled Builtin.esportsMatchWinner)
  have bodies : market.queries.filterMap (·.body) = [Builtin.firstPage] := rfl
  have onlyPage : ∀ query ∈ market.queries, ∀ body ∈ query.body, body = Builtin.firstPage :=
    fun query listed body given => List.mem_singleton.1
      (bodies ▸ List.mem_filterMap.2 ⟨query, listed, given⟩)
  have doubles : market.DoublesReadBack := by
    intro query listed body given value inside
    rw [onlyPage query listed body given] at inside
    simp [Builtin.firstPage, Json.numbers, Json.numbersOfMembers] at inside
  have plain : ∀ query ∈ market.queries, query.body ≠ some .null := fun query listed null => by
    have same := onlyPage query listed _ null
    cases same
  obtain ⟨-, ofFile⟩ := generate_prints_market .standard (fun _ => .absent) (some "staging") none
    none "esports-match-winner" matchSources false deployment loaded
  obtain ⟨-, ofJson⟩ := ofFile Dict.empty rfl
  obtain ⟨-, ofAssigned⟩ := ofJson matchVariables fromJson_matchSources
  obtain ⟨-, -, -, -, -, printed⟩ := ofAssigned _ assignments_matchSources
  obtain ⟨-, text, isOutput, read⟩ := printed market generated
  obtain ⟨json, isText, -, whole⟩ := read doubles
  exact ⟨deployment, values, market, loaded, (Dict.find?_ofList _ _).trans rfl,
    (Dict.find?_ofList _ _).trans rfl, generated, bodies, text, json, isOutput,
    isText, whole.2 plain⟩

/-- A settings file that names a catalog file, with one template whose body is not a number. -/
def nanFiles : Files := fun path =>
  if path = "c.yaml" then .text "catalog_path: k.yaml\n"
  else if path = "k.yaml" then .text
    ("[\x7bid: a, name: a, question: q, resolutionDefinition: r, dataSources: [\x7bname: s, " ++
      "endpoint: e, extractionRule: ., body: .nan\x7d], defaults: \x7boutcomes: [], " ++
      "consensusThresholdPct: 1, collateralToken: t, marketCapPct: 1\x7d\x7d]\n")
  else .absent

/-- That template declares nothing, and its one source has `null` as its body. -/
theorem exists_load_nanFiles :
    ∃ deployment template source,
      Deployment.load nanFiles (some "c.yaml") none none = .ok deployment ∧
      deployment.settings.strict = false ∧ deployment.catalog.find? "a" = some template ∧
      template.schema = Dict.empty ∧ template.sources = [source] ∧ source.body = some .null := by
  have checked : (Deployment.load nanFiles (some "c.yaml") none none).toOption.map
      (fun deployment => (deployment.settings.strict,
        (deployment.catalog.find? "a").map fun template => (template.schema.isEmpty,
          template.sources.map fun source => source.body.map Json.isNull))) =
      some (false, some (true, [some true])) := by decide +kernel
  cases loaded : Deployment.load nanFiles (some "c.yaml") none none with
  | error failure =>
    rw [loaded] at checked
    cases checked
  | ok deployment =>
    rw [loaded] at checked
    obtain ⟨lenient, checked⟩ := Prod.mk.inj (Option.some.inj checked)
    obtain ⟨template, found, checked⟩ := Option.map_eq_some_iff.1 checked
    obtain ⟨noNames, bodies⟩ := Prod.mk.inj checked
    obtain ⟨source, alone, isNull⟩ := List.map_eq_singleton_iff.1 bodies
    obtain ⟨body, isBody, isNull⟩ := Option.map_eq_some_iff.1 isNull
    cases body with
    | null =>
      exact ⟨deployment, template, source, rfl, lenient, found, Dict.isEmpty_iff.1 noNames, alone,
        isBody⟩
    | _ => cases isNull

/-- The first instant of 1970 is assigned as a number. -/
theorem readAssignment_first :
    readAssignment "attestationTime=0" = .ok (Token.attestationTime, .ofUInt32 0) := by
  have isText : Json.ofText? "0" = some (.ofUInt32 0) :=
    Json.ofText?_toCompactText (Json.readable_integer _ : Json.Readable _ (.ofUInt32 0))
  have isNumber : assignedValue "0" = .ofUInt32 0 := by
    rw [assignedValue, isText]
    rfl
  have split : splitAssignment? "attestationTime=0".toList =
      some ("attestationTime".toList, "0".toList) := by decide +kernel
  have trimmed : Text.trim "attestationTime".toList = "attestationTime".toList := by
    decide +kernel
  rw [readAssignment, split]
  simp only [trimmed, String.ofList_toList, isNumber]
  rfl

/-- What is read of the printed text is not always the market that is generated: a body that is
not a number in YAML is `null` in the market, and it is absent in what is read. -/
theorem printed_market_differs : ¬ ∀ (engine : PatternEngine) (files : Files)
    (selected settingsPath environment : Option String) (id : String)
    (sources : VariableSources) (strict : Bool) (deployment : Deployment) (values : Variables)
    (market : Market),
    Deployment.load files settingsPath selected environment = .ok deployment →
      sources.collect files = .ok values →
        Market.generate engine deployment.catalog
          ⟨deployment.settings.proxy, deployment.settings.strict || strict⟩ id values =
            .ok market →
          market.DoublesReadBack → ∃ text json,
            (Invocation.run engine files selected
              ⟨settingsPath, environment, .generate id sources strict⟩).output = text ++ "\n" ∧
            Json.ofText? text = some json ∧ Market.read json = some market := by
  intro alwaysReadBack
  obtain ⟨deployment, template, source, loaded, lenient, found, noNames, alone, isNull⟩ :=
    exists_load_nanFiles
  let sources : VariableSources := ⟨none, none, ["attestationTime=0"]⟩
  let values : Variables := Dict.ofList [(Token.attestationTime, .ofUInt32 0)]
  have assigned : sources.assignments.mapM readAssignment =
      .ok [(Token.attestationTime, .ofUInt32 0)] := by
    rw [List.mapM_cons, readAssignment_first]
    rfl
  have collected : sources.collect nanFiles = .ok values := by
    rw [VariableSources.collect_eq, assigned]
    rfl
  have parsed : attestationInstant (values.find? Token.attestationTime) = .ok ⟨0, 0⟩ := rfl
  have fits : template.schema.PlacesFit := by
    rw [noNames]
    decide
  have ample : alternationSize (template.schema.keys ++ Token.computed) ≤ ampleSize := by
    rw [noNames]
    decide +kernel
  let filled := Binding.atInstant ⟨0, 0⟩ template.schema values deployment.settings.proxy
  have generated : Market.generate .standard deployment.catalog
      ⟨deployment.settings.proxy, deployment.settings.strict || false⟩ "a" values =
        .ok (Market.rendered ⟨filled, false⟩ template) := by
    rw [lenient]
    exact (Market.generate_of_ready found fits parsed
      (PatternEngine.standard.admits_atInstant ample _ _ _)).trans
      (Market.ofTemplate_lenient filled template)
  have queries : (Market.rendered ⟨filled, false⟩ template).queries =
      [Query.rendered ⟨filled, false⟩ source] := congrArg (List.map _) alone
  have doubles : (Market.rendered ⟨filled, false⟩ template).DoublesReadBack := by
    intro query listed body given value inside
    rw [queries] at listed
    cases List.mem_singleton.1 listed
    cases Option.some.inj (isNull.symm.trans given)
    cases inside
  obtain ⟨text, json, -, -, isRead⟩ := alwaysReadBack .standard nanFiles none (some "c.yaml") none
    "a" sources false deployment values _ loaded collected generated doubles
  have plain := Arrangement.asWritten.nesting.market_of_read 0 rfl isRead
  rw [queries] at plain
  exact (plain _ (List.mem_singleton.2 rfl) .null isNull).1 rfl

end CommandLine

end PredictionMarket
