import PredictionMarket.Proofs.Generation.StrictMode
import PredictionMarket.Proofs.Rendering.Replacement

/-!
# Strict rendering of one field

In strict mode a field fails with a placeholder that its text mentions and the binding
lacks. When no brace stands in a key, it fails exactly when there is such a placeholder, and
with the first one. Keys with braces can swallow placeholders or split them, so then a field
may be rendered although its text mentions more than the binding has; what is reported is
still mentioned and lacking.
-/

namespace PredictionMarket

open Placeholder (BraceFree namesOf token)
open Failure (settle_eq_ok_iff settle_eq_error_iff)

namespace Renderer

variable {binding : Binding} {text field : String} {failure : Failure}

/-- A field fails with its failure. -/
theorem applyField_eq_error_iff {renderer : Renderer} :
    renderer.applyField text field = .error failure ↔
      renderer.failure? (field, text) = some failure := by
  rw [applyField_eq, settle_eq_error_iff]

/-- Whatever the keys, in strict mode a field fails with a token that its text mentions and the
binding lacks. -/
theorem exists_lacking_of_failure? (fails : failure? ⟨binding, true⟩ (field, text) = some failure) :
    ∃ name ∈ namesOf text, binding.contains name = false ∧
      failure = .unresolvedPlaceholder (String.ofList (token name.toList)) field := by
  rw [failure?, if_pos rfl, Option.map_eq_some_iff] at fails
  obtain ⟨name, found, rfl⟩ := fails
  obtain ⟨stretch, between, first⟩ := List.exists_of_findSome?_eq_some found
  have left : name ∈ Placeholder.names stretch := List.mem_of_mem_head? first
  have notKey := Cut.not_mem_of_mem_names between left
  refine ⟨String.ofList name, List.mem_map_of_mem (Cut.mem_names_of_mem_stretches between left),
    ?_, by rw [String.toList_ofList]⟩
  rwa [← Bool.not_eq_true, Dict.contains_iff]

/-- When no brace stands in a key, in strict mode a field fails exactly with the first token
that its text mentions and the binding lacks. -/
theorem applyField_strict_eq_error_iff (keysFree : ∀ key ∈ binding.keys, BraceFree key.toList) :
    applyField ⟨binding, true⟩ text field = .error failure ↔
      ∃ name, binding.lacking? text = some name ∧
        failure = .unresolvedPlaceholder (String.ofList (token name.toList)) field := by
  rw [applyField_eq_error_iff, failure?_strict keysFree, Option.map_eq_some_iff]
  exact exists_congr fun name => and_congr_right fun _ => eq_comm

/-- When no brace stands in a key, in strict mode a field whose text mentions bound tokens only
is rendered as it is outside strict mode. -/
theorem applyField_strict_of_bound (keysFree : ∀ key ∈ binding.keys, BraceFree key.toList)
    (bound : ∀ name ∈ namesOf text, binding.contains name = true) :
    applyField ⟨binding, true⟩ text field = .ok (apply ⟨binding, false⟩ text) := by
  rw [applyField_eq, settle_eq_ok_iff, failure?_strict keysFree,
    Binding.lacking?_eq_none_iff.2 bound]
  exact ⟨rfl, rfl⟩

end Renderer

open Renderer (applyField apply applyField_eq_error_iff applyField_strict_eq_error_iff
  applyField_strict_of_bound exists_lacking_of_failure?)

/-- Strict rendering is exact. When no brace stands in a key, a field fails exactly when its
text mentions a name that is no key, and the failure shows the token of the first such name;
otherwise the field is rendered as it is outside strict mode. Whatever the keys, the token that
a failure shows is that of a name which the text mentions and which is no key. -/
theorem strict_rendering_is_exact (binding : Binding) (text field : String) :
    ((∀ key ∈ binding.keys, BraceFree key.toList) →
      ((∃ failure, applyField ⟨binding, true⟩ text field = .error failure) ↔
        ∃ name ∈ namesOf text, binding.contains name = false) ∧
      (∀ failure, applyField ⟨binding, true⟩ text field = .error failure ↔
        ∃ earlier name later, namesOf text = earlier ++ name :: later ∧
          (∀ other ∈ earlier, binding.contains other = true) ∧
          binding.contains name = false ∧
          failure = .unresolvedPlaceholder (String.ofList (token name.toList)) field) ∧
      ((∀ name ∈ namesOf text, binding.contains name = true) →
        applyField ⟨binding, true⟩ text field = .ok (apply ⟨binding, false⟩ text))) ∧
    ∀ failure, applyField ⟨binding, true⟩ text field = .error failure →
      ∃ name ∈ namesOf text, binding.contains name = false ∧
        failure = .unresolvedPlaceholder (String.ofList (token name.toList)) field := by
  refine ⟨fun keysFree => ⟨?_, fun failure => ?_, fun bound => ?_⟩, fun failure fails => ?_⟩
  · constructor
    · rintro ⟨failure, fails⟩
      obtain ⟨name, mentioned, lacks, -⟩ :=
        exists_lacking_of_failure? (applyField_eq_error_iff.1 fails)
      exact ⟨name, mentioned, lacks⟩
    · rintro ⟨name, mentioned, lacks⟩
      cases first : binding.lacking? text with
      | none =>
        rw [Binding.lacking?_eq_none_iff.1 first name mentioned] at lacks
        cases lacks
      | some other => exact ⟨_, (applyField_strict_eq_error_iff keysFree).2 ⟨other, first, rfl⟩⟩
  · rw [applyField_strict_eq_error_iff keysFree]
    constructor
    · rintro ⟨name, first, rfl⟩
      obtain ⟨earlier, later, parts, bound, lacks⟩ := Binding.lacking?_eq_some_iff.1 first
      exact ⟨earlier, name, later, parts, bound, lacks, rfl⟩
    · rintro ⟨earlier, name, later, parts, bound, lacks, rfl⟩
      exact ⟨name, Binding.lacking?_eq_some_iff.2 ⟨earlier, later, parts, bound, lacks⟩, rfl⟩
  · exact applyField_strict_of_bound keysFree bound
  · exact exists_lacking_of_failure? (applyField_eq_error_iff.1 fails)

/-- Placeholders of `a`, `ab`, `b` and `c`, the first and the third next to further braces. -/
def nestedText : String :=
  "\x7b\x7b\x7ba\x7d\x7d\x7d\x7b\x7bab\x7d\x7d\x7b\x7b\x7bb\x7d\x7d\x7b\x7bc\x7d\x7d"

/-- The placeholders of `a` and `b` with a dash between them, and that of `d` in braces. -/
def spanningText : String := "\x7b\x7ba\x7d\x7d-\x7b\x7bb\x7d\x7d\x7b\x7b\x7bd\x7d\x7d\x7d"

/-- A binding of a key that spans two placeholders. -/
def spanningBinding : Binding := Dict.ofList [("a\x7d\x7d-\x7b\x7bb", "both"), ("c", "C")]

/-- Behind bound tokens and between further braces the first lacking token is reported. A key
that spans two placeholders resolves them both, and what is reported is the one behind them. -/
theorem lacking_tokens_are_reported :
    (∀ key ∈ nestedBinding.keys, BraceFree key.toList) ∧
    applyField ⟨nestedBinding, true⟩ nestedText "question" =
      .error (.unresolvedPlaceholder "\x7b\x7bb\x7d\x7d" "question") ∧
    ∃ failure, applyField ⟨spanningBinding, true⟩ spanningText "question" = .error failure ∧
      ∃ name ∈ ["a", "b", "d"], spanningBinding.contains name = false ∧
        failure = .unresolvedPlaceholder (String.ofList (token name.toList)) "question" := by
  have keysFree : ∀ key ∈ nestedBinding.keys, BraceFree key.toList := by decide +kernel
  have fails : applyField ⟨spanningBinding, true⟩ spanningText "question" =
      .error (.unresolvedPlaceholder "\x7b\x7bd\x7d\x7d" "question") := rfl
  refine ⟨keysFree, ((strict_rendering_is_exact nestedBinding _ _).1 keysFree).2.1 _ |>.2 ?_,
    _, fails, (strict_rendering_is_exact spanningBinding _ _).2 _ fails⟩
  exact ⟨["a", "ab"], "b", ["c"], by decide +kernel, by decide +kernel, by decide +kernel, rfl⟩

end PredictionMarket
