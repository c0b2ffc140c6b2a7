import PredictionMarket.Proofs.Rendering.Cut
import PredictionMarket.Proofs.Rendering.Fields

/-!
# What rendering depends on

Two statements on two bindings. When they bind the same keys, a text is cut at the same slots
under both, so the values decide neither whether a field fails nor where values stand
(`values_only_fill_slots`). When their keys are names that placeholders can have, only the
keys that the text mentions make slots, so the other entries of a binding have no effect
(`unmentioned_tokens_have_no_effect`).
-/

namespace PredictionMarket

open Placeholder (BraceFree namesOf token mem_namesOf_iff)
open Failure (settle_eq_ok_iff settle_eq_error_iff)
open Renderer (applyField apply applyField_eq)

variable {first second : Binding}

namespace Renderer

/-- What fails depends on the keys of a binding only. -/
theorem failure?_congr (sameKeys : first.keys = second.keys) (strict : Bool)
    (field : String × String) :
    failure? ⟨first, strict⟩ field = failure? ⟨second, strict⟩ field := by
  rw [failure?, failure?, cut, cut, sameKeys]

/-- What begins with the keys comes to the same when both patterns can be compiled, or neither,
and the renderers do the same. -/
theorem make_bind_congr {engine : PatternEngine}
    (alike : engine.admits first = engine.admits second) {strict : Bool}
    {next : Renderer → Except Failure String}
    (same : next ⟨first, strict⟩ = next ⟨second, strict⟩) :
    (make engine first strict >>= next) = (make engine second strict >>= next) := by
  rw [make, make, alike]
  cases engine.admits second with
  | true => exact same
  | false => rfl

end Renderer

/-- Values only fill slots. Bindings of the same keys, with whatever braces in keys and values,
fail alike in strict mode; and there is one way to cut the text into stretches and keys such
that under either binding, in either mode, the rendered text is made of the stretches and the
values of the keys. -/
theorem values_only_fill_slots (first second : Binding) (text field : String)
    (sameKeys : ∀ key, first.contains key = second.contains key) :
    (∀ failure, applyField ⟨first, true⟩ text field = .error failure ↔
      applyField ⟨second, true⟩ text field = .error failure) ∧
    ∃ cut : Cut, cut.fill (fun key => token key.toList) = text.toList ∧
      ∀ binding ∈ [first, second],
        (∀ slot ∈ cut.slots,
          binding.find? slot.1 = some (String.ofList (binding.valueOf slot.1))) ∧
        (apply ⟨binding, false⟩ text).toList = cut.fill binding.valueOf ∧
        ∀ strict output, applyField ⟨binding, strict⟩ text field = .ok output →
          output.toList = cut.fill binding.valueOf := by
  have keys := Dict.keys_congr sameKeys
  refine ⟨fun failure => ?_, Cut.ofText first.keys text.toList, Cut.fill_token _ _,
    fun binding listed => ?_⟩
  · rw [applyField_eq, applyField_eq, settle_eq_error_iff, settle_eq_error_iff,
      Renderer.failure?_congr keys]
  · have sameCut : Cut.ofText first.keys text.toList = Cut.ofText binding.keys text.toList := by
      rcases List.mem_pair.1 listed with rfl | rfl
      · rfl
      · rw [keys]
    rw [sameCut]
    refine ⟨fun slot isSlot => ?_, Renderer.toList_apply _ _, fun strict output rendered => ?_⟩
    · obtain ⟨value, bound⟩ := Dict.exists_find?_of_mem_keys (Cut.mem_keys_of_mem_slots isSlot)
      simp [Binding.valueOf, bound]
    · rw [applyField_eq, settle_eq_ok_iff] at rendered
      rw [← rendered.2, Renderer.toList_apply]

/-- A binding of a key that begins another one, which spans two placeholders. -/
def calmBinding : Binding := Dict.ofList [("a", "A"), ("a\x7d\x7d-\x7b\x7bb", "A-B"), ("c", "C")]

/-- The same keys with values that look like placeholders or are empty. -/
def hostileBinding : Binding :=
  Dict.ofList [("a", "\x7b\x7bd\x7d\x7d"), ("a\x7d\x7d-\x7b\x7bb", ""), ("c", "\x7b\x7b")]

/-- The placeholders of `a` and `b` with a dash between them, and behind them that of `c`. -/
def spannedText : String := "\x7b\x7ba\x7d\x7d-\x7b\x7bb\x7d\x7d\x7b\x7bc\x7d\x7d"

/-- The first key that fits leaves the second placeholder; what its value looks like makes no
difference. -/
theorem hostile_values_only_fill_slots :
    (∀ key, calmBinding.contains key = hostileBinding.contains key) ∧
    (∀ binding ∈ [calmBinding, hostileBinding],
      applyField ⟨binding, true⟩ spannedText "question" =
        .error (.unresolvedPlaceholder "\x7b\x7bb\x7d\x7d" "question")) ∧
    ∃ cut : Cut, ∀ binding ∈ [calmBinding, hostileBinding],
      (apply ⟨binding, false⟩ spannedText).toList = cut.fill binding.valueOf := by
  have sameKeys : ∀ key, calmBinding.contains key = hostileBinding.contains key := by
    intro key
    have listed : calmBinding.keys = hostileBinding.keys := by decide +kernel
    rw [Bool.eq_iff_iff, Dict.contains_iff, Dict.contains_iff, listed]
  obtain ⟨failures, cut, -, outputs⟩ :=
    values_only_fill_slots calmBinding hostileBinding spannedText "question" sameKeys
  refine ⟨sameKeys, fun binding listed => ?_, cut,
    fun binding listed => (outputs binding listed).2.1⟩
  rcases List.mem_pair.1 listed with rfl | rfl
  · rfl
  · exact (failures _).1 rfl

/-- Every key of a binding is a name that a placeholder can have. -/
def Binding.NamesPlaceholders (binding : Binding) : Prop :=
  ∀ key ∈ binding.keys, key ≠ "" ∧ BraceFree key.toList

instance (binding : Binding) : Decidable binding.NamesPlaceholders :=
  inferInstanceAs (Decidable (∀ key ∈ binding.keys, key ≠ "" ∧ BraceFree key.toList))

namespace Binding.NamesPlaceholders

variable {text key value : String}

/-- A key whose token stands in a text is mentioned by the text. -/
theorem mem_namesOf (named : first.NamesPlaceholders) (isKey : key ∈ first.keys)
    (stands : token key.toList <:+: text.toList) : key ∈ namesOf text :=
  mem_namesOf_iff.2 ⟨(named key isKey).1, (named key isKey).2, stands⟩

/-- Bindings that agree on the tokens that a text mentions cut it at the same slots. -/
theorem ofText_congr (firstNamed : first.NamesPlaceholders)
    (secondNamed : second.NamesPlaceholders)
    (agree : ∀ name ∈ namesOf text, first.find? name = second.find? name) :
    Cut.ofText first.keys text.toList = Cut.ofText second.keys text.toList := by
  have bound : ∀ {name}, name ∈ namesOf text → (name ∈ first.keys ↔ name ∈ second.keys) := by
    intro name mentioned
    rw [← Dict.contains_iff, ← Dict.contains_iff, Dict.contains, Dict.contains,
      agree name mentioned]
  refine Cut.ofText_congr_of_infix (fun key isKey => (secondNamed key isKey).2)
    fun key stands => ⟨fun isKey => ?_, fun isKey => ?_⟩
  · exact (bound (firstNamed.mem_namesOf isKey stands)).1 isKey
  · exact (bound (secondNamed.mem_namesOf isKey stands)).2 isKey

/-- Bindings that agree on the tokens that a text mentions render it alike. -/
theorem applyField_congr (firstNamed : first.NamesPlaceholders)
    (secondNamed : second.NamesPlaceholders)
    (agree : ∀ name ∈ namesOf text, first.find? name = second.find? name) (strict : Bool)
    (field : String) :
    apply ⟨first, strict⟩ text = apply ⟨second, strict⟩ text ∧
      applyField ⟨first, strict⟩ text field = applyField ⟨second, strict⟩ text field := by
  have sameCut := ofText_congr firstNamed secondNamed agree
  have sameFailure : Renderer.failure? ⟨first, strict⟩ (field, text) =
      Renderer.failure? ⟨second, strict⟩ (field, text) := by
    simp only [Renderer.failure?, Renderer.cut, sameCut]
  have sameText : apply ⟨first, strict⟩ text = apply ⟨second, strict⟩ text := by
    rw [← String.toList_inj, Renderer.toList_apply, Renderer.toList_apply, sameCut]
    refine Cut.fill_congr _ fun slot isSlot => ?_
    have mentioned := secondNamed.mem_namesOf (Cut.mem_keys_of_mem_slots isSlot)
      (Cut.token_infix_of_mem_slots isSlot)
    rw [valueOf, valueOf, agree slot.1 mentioned]
  rw [applyField_eq, applyField_eq, sameFailure, sameText]
  exact ⟨rfl, rfl⟩

/-- A further entry under a name that placeholders can have. -/
theorem insert (named : first.NamesPlaceholders) (nonempty : key ≠ "")
    (free : BraceFree key.toList) : NamesPlaceholders (Dict.insert first key value) := by
  intro other isKey
  rw [Dict.mem_keys_insert] at isKey
  rcases isKey with rfl | older
  · exact ⟨nonempty, free⟩
  · exact named other older

/-- The entries that are kept. -/
theorem filter (named : first.NamesPlaceholders) (keep : String → String → Bool) :
    NamesPlaceholders (Dict.filter keep first) := by
  intro other isKey
  have older : other ∈ first.keys := (List.filter_sublist.map Prod.fst).subset isKey
  exact named other older

end Binding.NamesPlaceholders

/-- Two bindings make no difference to a text. Their renderers return the same, and so does what
begins with the keys, unless the pattern of only one of them is too large. -/
structure RenderAlike (engine : PatternEngine) (text : String) (first second : Binding) :
    Prop where
  texts : ∀ strict, apply ⟨first, strict⟩ text = apply ⟨second, strict⟩ text
  fields : ∀ strict field,
    applyField ⟨first, strict⟩ text field = applyField ⟨second, strict⟩ text field
  substituted : engine.admits first = engine.admits second →
    substitute engine text first = substitute engine text second
  substitutedFields : engine.admits first = engine.admits second → ∀ strict field,
    substituteField engine text field first strict =
      substituteField engine text field second strict

namespace RenderAlike

variable {engine : PatternEngine} {text name : String}

/-- Bindings that agree on the tokens that a text mentions make no difference to it. -/
theorem of_agree (firstNamed : first.NamesPlaceholders) (secondNamed : second.NamesPlaceholders)
    (agree : ∀ name ∈ namesOf text, first.find? name = second.find? name) :
    RenderAlike engine text first second where
  texts strict := (firstNamed.applyField_congr secondNamed agree strict "").1
  fields strict field := (firstNamed.applyField_congr secondNamed agree strict field).2
  substituted alike := by
    have same := (firstNamed.applyField_congr secondNamed agree false "").1
    exact Renderer.make_bind_congr alike (congrArg Except.ok same)
  substitutedFields alike strict field :=
    Renderer.make_bind_congr alike (firstNamed.applyField_congr secondNamed agree strict field).2

/-- A token that a text does not mention may be added or changed. -/
theorem insert {binding : Binding} (named : binding.NamesPlaceholders)
    (absent : name ∉ namesOf text) (nonempty : name ≠ "") (free : BraceFree name.toList)
    (value : String) : RenderAlike engine text (binding.insert name value) binding := by
  refine of_agree (named.insert nonempty free) named fun other mentioned => ?_
  have different : other ≠ name := fun same => absent (same ▸ mentioned)
  rw [Dict.find?_insert, if_neg different]

/-- A token that a text does not mention may be removed. -/
theorem remove {binding : Binding} (named : binding.NamesPlaceholders)
    (absent : name ∉ namesOf text) :
    RenderAlike engine text (binding.filter fun key _ => key != name) binding := by
  refine of_agree (named.filter _) named fun other mentioned => ?_
  have kept : (other != name) = true := bne_iff_ne.2 fun same => absent (same ▸ mentioned)
  rw [Dict.find?_filter, kept]
  cases binding.find? other <;> rfl

end RenderAlike

/-- Tokens that a text does not mention have no effect on it. When the keys of two bindings are
names that placeholders can have, and the bindings agree on every token that the text mentions,
the text and every field with it are rendered alike under both, in either mode. So a token that
the text does not mention may be added, changed or removed. All that other keys can do is to make
the pattern too large, and then every text and every field fails in the same way. -/
theorem unmentioned_tokens_have_no_effect (engine : PatternEngine) (text : String) :
    (∀ first second : Binding, first.NamesPlaceholders → second.NamesPlaceholders →
      (∀ name ∈ namesOf text, first.find? name = second.find? name) →
      RenderAlike engine text first second) ∧
    (∀ binding : Binding, binding.NamesPlaceholders → ∀ name, name ∉ namesOf text →
      (name ≠ "" → BraceFree name.toList → ∀ value,
        RenderAlike engine text (binding.insert name value) binding) ∧
      RenderAlike engine text (binding.filter fun key _ => key != name) binding) ∧
    ∀ (binding : Binding) (strict : Bool) (field : String),
      (engine.admits binding = true →
        substitute engine text binding = .ok (apply ⟨binding, false⟩ text) ∧
        substituteField engine text field binding strict =
          applyField ⟨binding, strict⟩ text field) ∧
      (engine.admits binding = false →
        substitute engine text binding = .error .patternTooLarge ∧
        substituteField engine text field binding strict = .error .patternTooLarge) := by
  refine ⟨fun first second firstNamed secondNamed agree => .of_agree firstNamed secondNamed agree,
    fun binding named name absent => ⟨?_, .remove named absent⟩,
    fun binding strict field => ⟨fun admitted => ?_, fun refused => ?_⟩⟩
  · intro nonempty free value
    exact .insert named absent nonempty free value
  · exact ⟨substitute_of_admitted admitted text,
      substituteField_of_admitted admitted text field strict⟩
  · exact ⟨substitute_of_refused refused text,
      substituteField_of_refused refused text field strict⟩

/-- The keys of a text, one of them the beginning of the other, and a key that is longer than
both. -/
def prefixBinding : Binding := Dict.ofList [("a", "\x7b"), ("ab", "AB"), ("abc", "ABC")]

/-- The same text under both keys, and another key between them. -/
def otherPrefixBinding : Binding := Dict.ofList [("a", "\x7b"), ("aa", "AA"), ("ab", "AB")]

/-- A brace, and the placeholders of `a`, `ab` and `b` one behind the other. -/
def adjacentText : String := "\x7b\x7b\x7ba\x7d\x7d\x7b\x7bab\x7d\x7d\x7b\x7bb\x7d\x7d"

/-- Keys that begin, continue or lie between those of a text make no slots in it. -/
theorem prefix_keys_have_no_effect :
    prefixBinding.NamesPlaceholders ∧ otherPrefixBinding.NamesPlaceholders ∧
    (∀ name ∈ namesOf adjacentText,
      prefixBinding.find? name = otherPrefixBinding.find? name) ∧
    substitute .standard adjacentText otherPrefixBinding = .ok "\x7b\x7bAB\x7b\x7bb\x7d\x7d" ∧
    substituteField .standard adjacentText "rule" (prefixBinding.insert "bb" "BB") true =
      .error (.unresolvedPlaceholder "\x7b\x7bb\x7d\x7d" "rule") := by
  have named : prefixBinding.NamesPlaceholders := by decide +kernel
  have otherNamed : otherPrefixBinding.NamesPlaceholders := by decide +kernel
  have agree : ∀ name ∈ namesOf adjacentText,
      prefixBinding.find? name = otherPrefixBinding.find? name := by decide +kernel
  obtain ⟨alike, idle, built⟩ := unmentioned_tokens_have_no_effect .standard adjacentText
  have admitted : PatternEngine.standard.admits prefixBinding = true := by decide +kernel
  have otherAdmitted : PatternEngine.standard.admits otherPrefixBinding = true := by
    decide +kernel
  have longerAdmitted : PatternEngine.standard.admits (prefixBinding.insert "bb" "BB") = true := by
    decide +kernel
  have inserted := (idle prefixBinding named "bb" (by decide +kernel)).1 (by decide)
    (by decide +kernel) "BB"
  obtain ⟨text, field⟩ := (built prefixBinding true "rule").1 admitted
  refine ⟨named, otherNamed, agree, ?_, ?_⟩
  · rw [← (alike prefixBinding otherPrefixBinding named otherNamed agree).substituted
      (admitted.trans otherAdmitted.symm), text]
    exact congrArg Except.ok (by decide +kernel)
  · rw [inserted.substitutedFields (longerAdmitted.trans admitted.symm), field]
    rfl

end PredictionMarket
