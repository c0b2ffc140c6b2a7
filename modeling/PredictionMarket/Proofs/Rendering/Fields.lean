import PredictionMarket.Proofs.Failure
import PredictionMarket.Rendering

/-!
# Rendering a field

What rendering comes to when its failures are known apart: there is a renderer unless the pattern
of the keys is too large, and a field is rendered unless it fails. Of several fields the first one
that fails counts.
-/

namespace PredictionMarket

open Failure (settle)

namespace Renderer

section Make

variable {engine : PatternEngine} {binding : Binding}

/-- Keys that can be looked for give a renderer. -/
theorem make_of_admitted (admitted : engine.admits binding = true) (strict : Bool) :
    make engine binding strict = .ok ⟨binding, strict⟩ :=
  if_pos admitted

/-- Keys whose pattern is too large give none. -/
theorem make_of_refused (refused : engine.admits binding = false) (strict : Bool) :
    make engine binding strict = .error .patternTooLarge := by
  rw [make, refused]
  rfl

/-- Why the keys of a binding cannot be looked for: their pattern is too large. -/
def patternFault? (engine : PatternEngine) (binding : Binding) : Option Failure :=
  if engine.admits binding then none else some .patternTooLarge

/-- There is a renderer unless the pattern is too large. -/
theorem make_eq (strict : Bool) :
    make engine binding strict = settle (patternFault? engine binding) ⟨binding, strict⟩ := by
  unfold make patternFault?
  cases engine.admits binding <;> rfl

end Make

/-- The failure of a labelled field. -/
def failure? (renderer : Renderer) (field : String × String) : Option Failure :=
  if renderer.strict then
    (renderer.cut field.2).unresolved?.map fun name =>
      .unresolvedPlaceholder (String.ofList (Placeholder.token name)) field.1
  else none

/-- The failure of the first labelled field that fails. -/
def firstFailure? (renderer : Renderer) (fields : List (String × String)) : Option Failure :=
  fields.findSome? renderer.failure?

/-- Of the first field and the others the first failure counts. -/
theorem firstFailure?_cons (renderer : Renderer) (field : String × String)
    (fields : List (String × String)) :
    renderer.firstFailure? (field :: fields) =
      (renderer.failure? field).or (renderer.firstFailure? fields) := by
  rw [firstFailure?, List.findSome?_cons, firstFailure?]
  cases renderer.failure? field <;> rfl

/-- Of two lists of fields the first failure counts. -/
theorem firstFailure?_append (renderer : Renderer) (fields later : List (String × String)) :
    renderer.firstFailure? (fields ++ later) =
      (renderer.firstFailure? fields).or (renderer.firstFailure? later) :=
  List.findSome?_append

/-- A field is rendered unless it fails. -/
theorem applyField_eq (renderer : Renderer) (text label : String) :
    renderer.applyField text label =
      settle (renderer.failure? (label, text)) (renderer.apply text) := by
  unfold applyField failure?
  cases (renderer.cut text).unresolved? <;> cases renderer.strict <;> rfl

/-- Nothing fails outside strict mode. -/
theorem firstFailure?_lenient (binding : Binding) (fields : List (String × String)) :
    firstFailure? ⟨binding, false⟩ fields = none :=
  List.findSome?_eq_none_iff.2 fun _ _ => rfl

/-- In strict mode no field fails exactly when no cut leaves a placeholder. -/
theorem firstFailure?_strict_eq_none_iff {binding : Binding} {fields : List (String × String)} :
    firstFailure? ⟨binding, true⟩ fields = none ↔
      ∀ field ∈ fields, (cut ⟨binding, true⟩ field.2).unresolved? = none := by
  rw [firstFailure?, List.findSome?_eq_none_iff]
  exact forall₂_congr fun field _ => Option.map_eq_none_iff

/-- Fields fail with unresolved placeholders only. -/
theorem unresolved_of_firstFailure? {renderer : Renderer} {fields : List (String × String)}
    {failure : Failure} (fails : renderer.firstFailure? fields = some failure) :
    ∃ shown label, failure = .unresolvedPlaceholder shown label := by
  obtain ⟨_, field, _, _, fails, _⟩ := List.findSome?_eq_some_iff.1 fails
  unfold failure? at fails
  split at fails
  · obtain ⟨name, _, rfl⟩ := Option.map_eq_some_iff.1 fails
    exact ⟨_, _, rfl⟩
  · cases fails

end Renderer

/-- The text of a field under a binding, the keys of which are compiled for it. -/
def substituteField (engine : PatternEngine) (text field : String) (binding : Binding)
    (strict : Bool) : Except Failure String := do
  let renderer ← Renderer.make engine binding strict
  renderer.applyField text field

section Substitute

variable {engine : PatternEngine} {binding : Binding}

/-- With a pattern a text is what its renderer makes of it. -/
theorem substitute_of_admitted (admitted : engine.admits binding = true) (text : String) :
    substitute engine text binding = .ok (Renderer.apply ⟨binding, false⟩ text) := by
  rw [substitute, Renderer.make_of_admitted admitted]
  rfl

/-- Without a pattern there is no text. -/
theorem substitute_of_refused (refused : engine.admits binding = false) (text : String) :
    substitute engine text binding = .error .patternTooLarge := by
  rw [substitute, Renderer.make_of_refused refused]
  rfl

/-- With a pattern a field is what its renderer makes of it. -/
theorem substituteField_of_admitted (admitted : engine.admits binding = true)
    (text field : String) (strict : Bool) :
    substituteField engine text field binding strict =
      Renderer.applyField ⟨binding, strict⟩ text field := by
  rw [substituteField, Renderer.make_of_admitted admitted]
  rfl

/-- Without a pattern no field is rendered. -/
theorem substituteField_of_refused (refused : engine.admits binding = false)
    (text field : String) (strict : Bool) :
    substituteField engine text field binding strict = .error .patternTooLarge := by
  rw [substituteField, Renderer.make_of_refused refused]
  rfl

end Substitute

end PredictionMarket
