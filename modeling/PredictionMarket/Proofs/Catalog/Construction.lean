import PredictionMarket.Proofs.Catalog.Lookup
import PredictionMarket.Proofs.Generation.Residue
import PredictionMarket.Template.Check

/-!
# Building catalogs

Catalogs are built from lists of templates and by joining catalogs. However one is built,
it holds the templates of its parts one behind the other (`Construction.build_eq_ok_iff`),
and building fails only because an identifier occurs twice. So joining is associative, and
an identifier finds in a joined catalog what it finds in the part that has it.
-/

namespace PredictionMarket

namespace Catalog

variable {first second both : Catalog} {id : String}

/-- The identifiers of the templates, in their order. -/
def ids (catalog : Catalog) : List String := catalog.templates.map Template.id

/-- Catalogs with the same templates are equal. -/
theorem eq_of_templates_eq (same : first.templates = second.templates) : first = second := by
  have sameIndex : first.index = second.index :=
    Except.ok.inj (first.indexed.symm.trans (same ▸ second.indexed))
  cases first
  cases second
  cases same
  cases sameIndex
  rfl

/-- Templates with pairwise different identifiers have a catalog. -/
theorem exists_of_distinct {templates : List Template}
    (distinct : (templates.map Template.id).Nodup) :
    ∃ catalog : Catalog, catalog.templates = templates := by
  obtain ⟨index, indexed⟩ := exists_indexFrom_iff.2
    ⟨distinct, fun id _ => (by simp : id ∉ Dict.empty.keys)⟩
  exact ⟨⟨templates, index, indexed⟩, rfl⟩

/-- A list of templates becomes the catalog that has them, and no other. -/
theorem ofTemplates_eq_ok_iff {templates : List Template} {catalog : Catalog} :
    ofTemplates templates = .ok catalog ↔ catalog.templates = templates := by
  constructor
  · intro built
    unfold ofTemplates at built
    split at built
    · cases built
      rfl
    · cases built
  · rintro rfl
    unfold ofTemplates
    split
    case h_1 => exact congrArg Except.ok (eq_of_templates_eq rfl)
    case h_2 failure fails =>
      rw [catalog.indexed] at fails
      cases fails

/-- A list of templates is refused exactly at the first identifier that repeats an earlier
one. -/
theorem ofTemplates_eq_error_iff {templates : List Template} {failure : Failure} :
    ofTemplates templates = .error failure ↔
      ∃ before id after, templates.map Template.id = before ++ id :: after ∧ before.Nodup ∧
        id ∈ before ∧ failure = .catalog (.duplicateId id) := by
  have refused : ofTemplates templates = .error failure ↔
      indexOf (templates.map Template.id) = .error failure := by
    unfold ofTemplates
    split
    case h_1 index indexed => simp [indexed]
    case h_2 other fails => simp [fails]
  rw [refused, indexOf, indexFrom_eq_error_iff]
  simp

/-- A list of templates is refused exactly when two identifiers are equal. -/
theorem ofTemplates_fails_iff {templates : List Template} :
    (∃ failure, ofTemplates templates = .error failure) ↔
      ¬ (templates.map Template.id).Nodup := by
  constructor
  · rintro ⟨failure, fails⟩ distinct
    obtain ⟨catalog, same⟩ := exists_of_distinct distinct
    rw [ofTemplates_eq_ok_iff.2 same] at fails
    cases fails
  · intro repeated
    cases built : ofTemplates templates with
    | ok catalog => exact absurd (ofTemplates_eq_ok_iff.1 built ▸ catalog.distinct) repeated
    | error failure => exact ⟨failure, rfl⟩

/-- The templates of a catalog make it again. -/
theorem ofTemplates_templates (catalog : Catalog) :
    ofTemplates catalog.templates = .ok catalog :=
  ofTemplates_eq_ok_iff.2 rfl

/-- Joining gives the catalog that has the templates of both, one behind the other. -/
theorem merged_eq_ok_iff :
    first.merged second = .ok both ↔ both.templates = first.templates ++ second.templates :=
  ofTemplates_eq_ok_iff

/-- Catalogs cannot be joined exactly when they have an identifier in common. -/
theorem merged_fails_iff :
    (∃ failure, first.merged second = .error failure) ↔
      ∃ id ∈ first.ids, id ∈ second.ids := by
  rw [merged, ofTemplates_fails_iff, List.map_append, List.nodup_append']
  simp [first.distinct, second.distinct, List.Disjoint, ids]

/-- An identifier of the first catalog is none of the second when the two can be joined. -/
theorem not_mem_ids_of_merged (joined : first.merged second = .ok both) (inFirst : id ∈ first.ids) :
    id ∉ second.ids := by
  intro inSecond
  obtain ⟨failure, fails⟩ := merged_fails_iff.2 ⟨id, inFirst, inSecond⟩
  rw [joined] at fails
  cases fails

/-- Nothing is found exactly under what is no identifier. -/
theorem find?_eq_none_iff_not_mem_ids {catalog : Catalog} :
    catalog.find? id = none ↔ id ∉ catalog.ids := by
  rw [find?_eq_none_iff, ids, List.mem_map]
  exact ⟨fun other ⟨template, listed, same⟩ => other template listed same,
    fun absent template listed same => absent ⟨template, listed, same⟩⟩

/-- What is found stands at one place of the catalog, and no template at another place has
its identifier. -/
theorem find?_eq_some_iff_alone {catalog : Catalog} {template : Template} :
    catalog.find? id = some template ↔
      ∃ before after, catalog.templates = before ++ template :: after ∧ template.id = id ∧
        ∀ other ∈ before ++ after, other.id ≠ id := by
  rw [find?_eq_some_iff]
  constructor
  · rintro ⟨listed, rfl⟩
    obtain ⟨before, after, split⟩ := List.append_of_mem listed
    refine ⟨before, after, split, rfl, fun other elsewhere same => ?_⟩
    have distinct := catalog.distinct
    rw [split, List.map_append, List.map_cons, List.nodup_middle, List.nodup_cons,
      ← List.map_append] at distinct
    exact distinct.1 (List.mem_map.2 ⟨other, elsewhere, same⟩)
  · rintro ⟨before, after, split, same, -⟩
    exact ⟨split ▸ List.mem_append_right _ List.mem_cons_self, same⟩

/-- In a joined catalog an identifier finds what it finds in the first part, or else in the
second. -/
theorem find?_merged (joined : first.merged second = .ok both) :
    both.find? id = (first.find? id).or (second.find? id) := by
  simp only [find?_eq_search]
  rw [merged_eq_ok_iff.1 joined, List.find?_append]

/-- An identifier of the first part finds what it finds there. -/
theorem find?_merged_of_mem_first (joined : first.merged second = .ok both)
    (inFirst : id ∈ first.ids) : both.find? id = first.find? id := by
  have inSecond := find?_eq_none_iff_not_mem_ids.2 (not_mem_ids_of_merged joined inFirst)
  rw [find?_merged joined, inSecond, Option.or_none]

/-- An identifier of the second part finds what it finds there. -/
theorem find?_merged_of_mem_second (joined : first.merged second = .ok both)
    (inSecond : id ∈ second.ids) : both.find? id = second.find? id := by
  have inFirst : first.find? id = none := find?_eq_none_iff_not_mem_ids.2 fun inFirst =>
    not_mem_ids_of_merged joined inFirst inSecond
  rw [find?_merged joined, inFirst, Option.none_or]

/-- Generation reads of a catalog what the identifier finds, and nothing else. -/
theorem generate_of_find?_eq (same : first.find? id = second.find? id) (engine : PatternEngine)
    (options : GenerationOptions) (values : Variables) :
    Market.generate engine first options id values =
      Market.generate engine second options id values := by
  rw [Market.generate, Market.generate, same]

/-- How a catalog is put together: from a list of templates, or from two catalogs of which
one is appended to the other. -/
inductive Construction where
  | listed (templates : List Template)
  | joined (first second : Construction)

namespace Construction

/-- All templates that go into a catalog, in their order. -/
def templates : Construction → List Template
  | listed templates => templates
  | joined first second => first.templates ++ second.templates

/-- Builds a catalog. -/
def build : Construction → Except Failure Catalog
  | listed templates => ofTemplates templates
  | joined first second => do (← first.build).merged (← second.build)

/-- A construction gives the catalog that has all its templates in their order, and fails
when there is none, which is when two of them have one identifier. -/
theorem build_eq_ok_iff {construction : Construction} {catalog : Catalog} :
    construction.build = .ok catalog ↔ catalog.templates = construction.templates := by
  induction construction generalizing catalog with
  | listed templates => exact ofTemplates_eq_ok_iff
  | joined first second firstBuilt secondBuilt =>
    constructor
    · intro built
      cases firstResult : first.build with
      | error failure =>
        rw [build, firstResult] at built
        cases built
      | ok start =>
        cases secondResult : second.build with
        | error failure =>
          rw [build, firstResult, secondResult] at built
          cases built
        | ok rest =>
          rw [build, firstResult, secondResult] at built
          rw [templates, ← firstBuilt.1 firstResult, ← secondBuilt.1 secondResult]
          exact merged_eq_ok_iff.1 built
    · intro same
      have distinct := catalog.distinct
      rw [same, templates, List.map_append] at distinct
      obtain ⟨start, isStart⟩ := exists_of_distinct distinct.of_append_left
      obtain ⟨rest, isRest⟩ := exists_of_distinct distinct.of_append_right
      rw [build, firstBuilt.2 isStart, secondBuilt.2 isRest]
      refine merged_eq_ok_iff.2 ?_
      rw [same, templates, isStart, isRest]

end Construction

/-- Three catalogs joined from the left and from the right make the same catalog, or none. -/
theorem merged_assoc (first second third whole : Catalog) :
    ((first.merged second).bind fun both => both.merged third) = .ok whole ↔
      ((second.merged third).bind first.merged) = .ok whole := by
  have fromLeft : ((first.merged second).bind fun both => both.merged third) =
      (Construction.joined (.joined (.listed first.templates) (.listed second.templates))
        (.listed third.templates)).build := by
    simp only [Construction.build, ofTemplates_templates]
    rfl
  have fromRight : ((second.merged third).bind first.merged) =
      (Construction.joined (.listed first.templates)
        (.joined (.listed second.templates) (.listed third.templates))).build := by
    simp only [Construction.build, ofTemplates_templates]
    rfl
  rw [fromLeft, fromRight, Construction.build_eq_ok_iff, Construction.build_eq_ok_iff]
  simp only [Construction.templates, List.append_assoc]

/-- The catalog is sound over every construction. Its identifiers are pairwise different, it
holds the templates that went in, in their order, and an identifier finds the one template
that has it, or nothing when there is none. A list is refused exactly when two identifiers
are equal, at the first one that repeats an earlier one, and catalogs are refused exactly
when they have an identifier in common; joining is associative. In a joined catalog the
summaries and the findings of the parts follow one another, and every identifier of a part
generates what it generates from that part alone. -/
theorem built_catalogs_are_concatenations :
    (∀ (construction : Construction) (catalog : Catalog), construction.build = .ok catalog →
      catalog.ids.Nodup ∧ catalog.templates = construction.templates ∧
      ∀ id, (catalog.find? id = none ↔ id ∉ catalog.ids) ∧
        ∀ template, catalog.find? id = some template ↔
          ∃ before after, catalog.templates = before ++ template :: after ∧ template.id = id ∧
            ∀ other ∈ before ++ after, other.id ≠ id) ∧
    (∀ templates : List Template,
      ((∃ failure, ofTemplates templates = .error failure) ↔
        ¬ (templates.map Template.id).Nodup) ∧
      ∀ failure, ofTemplates templates = .error failure ↔
        ∃ before id after, templates.map Template.id = before ++ id :: after ∧ before.Nodup ∧
          id ∈ before ∧ failure = .catalog (.duplicateId id)) ∧
    (∀ first second : Catalog,
      (∃ failure, first.merged second = .error failure) ↔ ∃ id ∈ first.ids, id ∈ second.ids) ∧
    (∀ first second third whole : Catalog,
      ((first.merged second).bind fun both => both.merged third) = .ok whole ↔
        ((second.merged third).bind first.merged) = .ok whole) ∧
    ∀ first second both : Catalog, first.merged second = .ok both →
      both.templates = first.templates ++ second.templates ∧
      both.summaries = first.summaries ++ second.summaries ∧
      both.findings = first.findings ++ second.findings ∧
      ∀ (engine : PatternEngine) (options : GenerationOptions) (id : String) (values : Variables),
        (id ∈ first.ids → Market.generate engine both options id values =
          Market.generate engine first options id values) ∧
        (id ∈ second.ids → Market.generate engine both options id values =
          Market.generate engine second options id values) := by
  refine ⟨fun construction catalog built => ?_, fun templates => ?_, fun first second => ?_,
    merged_assoc, fun first second both joined => ?_⟩
  · exact ⟨catalog.distinct, Construction.build_eq_ok_iff.1 built, fun id =>
      ⟨find?_eq_none_iff_not_mem_ids, fun template => find?_eq_some_iff_alone⟩⟩
  · exact ⟨ofTemplates_fails_iff, fun failure => ofTemplates_eq_error_iff⟩
  · exact merged_fails_iff
  · have together := merged_eq_ok_iff.1 joined
    refine ⟨together, ?_, ?_,
      fun engine options id values => ⟨fun inFirst => ?_, fun inSecond => ?_⟩⟩
    · rw [summaries, together, List.map_append]
      rfl
    · rw [findings, together, List.flatMap_append]
      rfl
    · exact generate_of_find?_eq (find?_merged_of_mem_first joined inFirst) engine options values
    · exact generate_of_find?_eq (find?_merged_of_mem_second joined inSecond) engine options values

/-- The built-in templates, joined to a catalog that is itself joined from two lists. -/
def nestedConstruction : Construction :=
  .joined (.listed Builtin.templates)
    (.joined (.listed [Market.gapTemplate]) (.listed [Market.bracedTemplate]))

/-- Behind the built-in templates the identifier of the last list finds its template, and
generates what it generates from that list alone; a list with one identifier twice behind
another is refused for it. -/
theorem nestedConstruction_is_concatenation :
    ∃ catalog, nestedConstruction.build = .ok catalog ∧
      catalog.find? "braced" = some Market.bracedTemplate ∧
      ofTemplates [Market.gapTemplate, Market.bracedTemplate, Market.gapTemplate] =
        .error (.catalog (.duplicateId "gaps")) ∧
      ∃ joined, Market.gapCatalog.merged Market.bracedCatalog = .ok joined ∧
        ∀ engine options values, Market.generate engine joined options "braced" values =
          Market.generate engine Market.bracedCatalog options "braced" values := by
  obtain ⟨constructions, lists, -, -, parts⟩ := built_catalogs_are_concatenations
  obtain ⟨catalog, same⟩ := exists_of_distinct
    (by decide : (nestedConstruction.templates.map Template.id).Nodup)
  have built : nestedConstruction.build = .ok catalog := Construction.build_eq_ok_iff.2 same
  have apart : ∀ other ∈ Builtin.templates ++ [Market.gapTemplate] ++ [],
      other.id ≠ "braced" := by decide
  obtain ⟨pair, samePair⟩ := exists_of_distinct
    (by decide : ([Market.gapTemplate, Market.bracedTemplate].map Template.id).Nodup)
  have joined : Market.gapCatalog.merged Market.bracedCatalog = .ok pair :=
    merged_eq_ok_iff.2 samePair
  refine ⟨_, built, ?_, ?_, _, joined, fun engine options values => ?_⟩
  · exact (((constructions _ _ built).2.2 "braced").2 _).2 ⟨_, [], same, rfl, apart⟩
  · exact ((lists _).2 _).2
      ⟨["gaps", "braced"], "gaps", [], rfl, by decide, List.mem_cons_self, rfl⟩
  · exact ((parts _ _ _ joined).2.2.2 engine options "braced" values).2 List.mem_cons_self

end Catalog

end PredictionMarket
