import PredictionMarket.Proofs.Catalog.Construction
import PredictionMarket.Proofs.Yaml.Nesting
import PredictionMarket.Settings.Discovery

/-!
# Bodies in catalogs

The bodies of data sources are JSON values of any shape, but not of any depth. A catalog file is
read with room for so many collections, and a body stands four collections deep: in its data
source, in the list of these, in its template, and in the list of templates. What is left is the
room of every body in the catalog of a deployment; the built-in templates have none.
-/

namespace PredictionMarket

open Datum

/-- The room that is left for a body in a catalog file. -/
def bodyRoom : Nat := Yaml.Document.depthLimit - 4

namespace Catalog

/-- Every body has the room that a catalog file leaves it. -/
def BodiesInRoom (catalog : Catalog) : Prop :=
  ∀ template ∈ catalog.templates, ∀ source ∈ template.sources, ∀ body ∈ source.body,
    body.InRoom bodyRoom

/-- The one body of the built-in templates has room. -/
theorem bodiesInRoom_builtin : builtin.BodiesInRoom := by
  have all : (builtin.templates.flatMap fun template => template.sources.filterMap (·.body)) =
      [Builtin.firstPage] := rfl
  have firstPage : Builtin.firstPage.InRoom bodyRoom := ⟨by decide, rfl⟩
  intro template isTemplate source isSource body isBody
  have listed : body ∈ [Builtin.firstPage] := all ▸ List.mem_flatMap.2
    ⟨template, isTemplate, List.mem_filterMap.2 ⟨source, isSource, isBody⟩⟩
  rw [List.mem_singleton.1 listed]
  exact firstPage

/-- Bodies that are read from a catalog file have room. -/
theorem bodiesInRoom_of_ofYaml {text : String} {catalog : Catalog}
    (read : ofYaml text = .ok catalog) : catalog.BodiesInRoom := by
  unfold ofYaml at read
  split at read
  · next isRead =>
    obtain ⟨document, -, isRead⟩ := Option.bind_eq_some_iff.1 isRead
    obtain ⟨⟨templates, left⟩, isRun, rfl⟩ := Option.map_eq_some_iff.1 isRead
    have returned : Returning.Returns (list Template.read
        (⟨document, bodyRoom + 4, document.root⟩ : Yaml.Value)) templates := ⟨_, left, isRun⟩
    obtain ⟨elements, areElements, one⟩ := exists_of_list returned
    rw [BodiesInRoom, ofTemplates_eq_ok_iff.1 read]
    intro template isTemplate
    obtain ⟨element, isElement, isRead⟩ := one template isTemplate
    have room := Yaml.Value.nesting.elements rfl areElements element isElement
    exact (Yaml.Value.nesting.template_of_read bodyRoom room isRead).2
  · cases read

/-- Bodies that are read from the catalog file at a path have room. -/
theorem bodiesInRoom_of_load {files : Files} {path : String} {catalog : Catalog}
    (loaded : load files path = .ok catalog) : catalog.BodiesInRoom := by
  unfold load at loaded
  split at loaded
  · exact bodiesInRoom_of_ofYaml loaded
  · cases loaded

/-- The bodies of two catalogs keep their room when the catalogs are joined. -/
theorem BodiesInRoom.of_merged {first second both : Catalog} (inFirst : first.BodiesInRoom)
    (inSecond : second.BodiesInRoom) (joined : first.merged second = .ok both) :
    both.BodiesInRoom := by
  rw [BodiesInRoom, merged_eq_ok_iff.1 joined]
  intro template listed
  rcases List.mem_append.1 listed with before | behind
  · exact inFirst template before
  · exact inSecond template behind

/-- Bodies in the catalog of a deployment have room. -/
theorem bodiesInRoom_of_catalog {files : Files} {settings : Settings} {catalog : Catalog}
    (found : settings.catalog files = .ok catalog) : catalog.BodiesInRoom := by
  unfold Settings.catalog at found
  split at found
  · cases found
    exact bodiesInRoom_builtin
  · next path _ =>
    cases isExtra : load files path with
    | error failure =>
      rw [isExtra] at found
      cases found
    | ok extra =>
      rw [isExtra] at found
      exact bodiesInRoom_builtin.of_merged (bodiesInRoom_of_load isExtra) found

end Catalog

end PredictionMarket
