import PredictionMarket.Failure
import PredictionMarket.Template.Basic

/-!
# Catalogs

A catalog is a list of templates with pairwise different identifiers, and an index that
leads from each identifier to the position of its template. It keeps the order in which the
templates were given, and a catalog joined to another comes after it.
-/

namespace PredictionMarket

/-- Enters identifiers with their positions into an index, the first one at a position. An
identifier that is in the index already is refused. -/
def indexFrom (index : Dict Nat) (position : Nat) : List String → Except Failure (Dict Nat)
  | [] => .ok index
  | id :: rest =>
    if index.contains id then .error (.catalog (.duplicateId id))
    else indexFrom (index.insert id position) (position + 1) rest

/-- The index of identifiers that stand one behind the other. -/
def indexOf (ids : List String) : Except Failure (Dict Nat) := indexFrom Dict.empty 0 ids

/-- Templates in their order, with the index of their identifiers. -/
structure Catalog where
  templates : List Template
  index : Dict Nat
  indexed : indexOf (templates.map Template.id) = .ok index

namespace Catalog

/-- The catalog without templates. -/
def empty : Catalog := ⟨[], Dict.empty, rfl⟩

/-- The catalog of a list of templates; refused at the first identifier that repeats an
earlier one. -/
def ofTemplates (templates : List Template) : Except Failure Catalog :=
  match indexed : indexOf (templates.map Template.id) with
  | .ok index => .ok ⟨templates, index, indexed⟩
  | .error failure => .error failure

/-- The templates of one catalog followed by those of another. -/
def merged (first second : Catalog) : Except Failure Catalog :=
  ofTemplates (first.templates ++ second.templates)

/-- The template with exactly the given identifier. -/
def find? (catalog : Catalog) (id : String) : Option Template :=
  (catalog.index.find? id).bind fun position => catalog.templates[position]?

/-- The summaries of all templates, in their order. -/
def summaries (catalog : Catalog) : List Template.Summary :=
  catalog.templates.map Template.summary

/-- The number of templates. -/
def size (catalog : Catalog) : Nat := catalog.templates.length

end Catalog

end PredictionMarket
