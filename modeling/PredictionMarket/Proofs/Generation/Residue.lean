import Mathlib.Data.List.Infix
import PredictionMarket.Proofs.Generation.StrictMode

/-!
# What strict generation leaves

When every pair of opening braces in a template opens a placeholder and no bound value has
an opening brace, a market that strict generation returns has no pair of opening braces.
The argument follows the cut of a text: behind a brace that is kept, the filled text goes
on with a brace only if the text itself does, so every pair in the filled text stands in
the text and opens a placeholder there that the cut leaves. Braces in the names of
variables make no difference.
-/

namespace PredictionMarket

open Placeholder

/-- Every pair of opening braces in a text opens a placeholder. -/
def OpensPlaceholders (text : List Char) : Prop :=
  ∀ rest, rest <:+ text → ['\x7b', '\x7b'] <+: rest →
    ∃ name, name ≠ [] ∧ BraceFree name ∧ token name <+: rest

/-- It is enough to look at every position of the text. -/
theorem opensPlaceholders_iff {text : List Char} :
    OpensPlaceholders text ↔
      ∀ rest ∈ text.tails, ['\x7b', '\x7b'] <+: rest → (nameAt? rest).isSome = true := by
  refine forall_congr' fun rest => ?_
  rw [List.mem_tails, Option.isSome_iff_exists]
  simp only [nameAt?_eq_some_iff]

instance (text : List Char) : Decidable (OpensPlaceholders text) :=
  decidable_of_iff' _ opensPlaceholders_iff

namespace OpensPlaceholders

/-- What follows in such a text is such a text. -/
theorem of_suffix {text behind : List Char} (opens : OpensPlaceholders text)
    (suffix : behind <:+ text) : OpensPlaceholders behind :=
  fun rest isSuffix => opens rest (isSuffix.trans suffix)

/-- Such a text begins with a placeholder when it begins with a pair of opening braces. -/
theorem exists_nameAt? {rest : List Char} (opens : OpensPlaceholders ('\x7b' :: '\x7b' :: rest)) :
    ∃ name, nameAt? ('\x7b' :: '\x7b' :: rest) = some name := by
  obtain ⟨name, named⟩ := opens _ (List.suffix_refl _) ⟨rest, rfl⟩
  exact ⟨name, nameAt?_eq_some_iff.2 named⟩

end OpensPlaceholders

/-- Opening braces behind a stretch without any stand in what follows the stretch. -/
theorem opening_infix_of_append {front rest : List Char} (absent : '\x7b' ∉ front)
    (inside : ['\x7b', '\x7b'] <:+: front ++ rest) : ['\x7b', '\x7b'] <:+: rest := by
  induction front with
  | nil => exact inside
  | cons c front inductionHypothesis =>
    obtain ⟨other, later⟩ := not_or.1 (mt List.mem_cons.2 absent)
    rcases List.infix_cons_iff.1 inside with first | behind
    · exact absurd (List.cons_prefix_cons.1 first).1 other
    · exact inductionHypothesis later behind

namespace Cut

variable {keys : List String}

/-- A filled cut begins with an opening brace only if the text does. -/
theorem opening_of_fill {value : String → List Char} {text rest : List Char}
    (begins : (ofText keys text).fill value = '\x7b' :: rest) :
    ∃ behind, text = '\x7b' :: behind := by
  induction text using ofText_induction keys with
  | nil => cases begins
  | slot key rest found => exact ⟨_, rfl⟩
  | kept c rest free =>
    rw [fill_kept _ free] at begins
    exact ⟨rest, by rw [(List.cons.inj begins).1]⟩

/-- A filled cut has no pair of opening braces when every pair in the text opens a
placeholder, nothing is left, and no value has an opening brace. -/
theorem no_opening_fill {value : String → List Char} {text : List Char}
    (opens : OpensPlaceholders text) (closed : ∀ key ∈ keys, '\x7b' ∉ value key)
    (resolved : (ofText keys text).unresolved? = none) :
    ¬ ['\x7b', '\x7b'] <:+: (ofText keys text).fill value := by
  induction text using ofText_induction keys with
  | nil => simp [ofText, afterSkip, fill]
  | slot key rest found inductionHypothesis =>
    have isKey := (slotAt?_eq_some found).1
    rw [fill_slot _ found]
    intro inside
    rw [unresolved?_slot found] at resolved
    exact inductionHypothesis (opens.of_suffix (List.suffix_append _ _)) resolved
      (opening_infix_of_append (closed key isKey) inside)
  | kept c rest free inductionHypothesis =>
    rw [fill_kept _ free]
    intro inside
    rcases List.infix_cons_iff.1 inside with first | behind
    · -- Both braces would stand in the text, where they open a placeholder that is left.
      obtain ⟨rfl, second⟩ := List.cons_prefix_cons.1 first
      obtain ⟨later, filled⟩ := second
      obtain ⟨behind, rfl⟩ := opening_of_fill filled.symm
      obtain ⟨name, named⟩ := opens.exists_nameAt?
      rw [unresolved?_of_nameAt? free named] at resolved
      cases resolved
    · exact inductionHypothesis (opens.of_suffix (List.suffix_cons _ _))
        (unresolved?_kept free resolved) behind

end Cut

namespace Market

/-- Strict generation leaves no pair of opening braces in a market when every pair in the
template opens a placeholder and no bound value has an opening brace. -/
theorem strict_generation_leaves_no_opening (engine : PatternEngine) (catalog : Catalog)
    (id : String) (template : Template) (values : Variables) (proxy : String) (market : Market)
    (found : catalog.find? id = some template)
    (opens : ∀ field ∈ template.fields, OpensPlaceholders field.2.toList)
    (closed : ∀ binding, Binding.make template.schema values proxy = .ok binding →
      ∀ entry ∈ binding.entries, '\x7b' ∉ entry.2.toList)
    (generated : generate engine catalog ⟨proxy, true⟩ id values = .ok market) :
    ∀ text ∈ market.texts, ¬ ['\x7b', '\x7b'] <:+: text.toList := by
  obtain ⟨_, instant, isFound, parsed, noFault, rfl⟩ := exists_of_generate generated
  cases Option.some.inj (found.symm.trans isFound)
  obtain ⟨writable, -, resolved⟩ := fault?_eq_none_iff.1 noFault
  let binding := Binding.atInstant instant template.schema values proxy
  have valuesClosed : ∀ key ∈ binding.keys, '\x7b' ∉ binding.valueOf key := by
    intro key isKey
    obtain ⟨value, bound, same⟩ := Binding.exists_valueOf isKey
    rw [same]
    exact closed binding (Binding.make_of_writable parsed writable) _ bound
  rw [texts_rendered, List.forall_mem_map]
  intro field listed
  rw [Renderer.toList_apply]
  exact Cut.no_opening_fill (opens field listed) valuesClosed
    (Renderer.firstFailure?_strict_eq_none_iff.1 resolved field listed)

/-- A template that declares a name with braces in it, which spans two placeholders. -/
def bracedTemplate : Template where
  id := "braced"
  name := "Braced"
  description := ""
  category := ""
  image := ""
  schema := Dict.ofList [
    ("home\x7d\x7d-\x7b\x7baway", { Builtin.labelled .text "Teams" false with
      fallback := some (.string "") })]
  question := "Who wins \x7b\x7bhome\x7d\x7d-\x7b\x7baway\x7d\x7d?"
  resolution := "\x7bat \x7b\x7battestationTimeUnix\x7d\x7d\x7d"
  sources := [
    Builtin.sourceWith "scores" "\x7b\x7bapiProxyPrefix\x7d\x7d/scores"
      [("day", "\x7b\x7battestationTimeDate\x7d\x7d")] "\x7boutcomeIdx: 0\x7d"]
  defaults := Builtin.defaults ["Home", "Away"] 66 5

/-- The catalog of the template with the braced name. -/
def bracedCatalog : Catalog := ⟨[bracedTemplate], _, rfl⟩

/-- The braces of the name go with its slot, and those that open nothing stay. -/
theorem bracedTemplate_leaves_no_opening :
    bracedCatalog.find? "braced" = some bracedTemplate ∧
    (∀ field ∈ bracedTemplate.fields, OpensPlaceholders field.2.toList) ∧
    (∀ binding, Binding.make bracedTemplate.schema gapValues "http://proxy" = .ok binding →
      ∀ entry ∈ binding.entries, '\x7b' ∉ entry.2.toList) ∧
    ∃ market,
      generate .standard bracedCatalog ⟨"http://proxy", true⟩ "braced" gapValues = .ok market ∧
      market.question = "Who wins ?" ∧ market.resolution = "\x7bat 0\x7d" ∧
      ∀ text ∈ market.texts, ¬ ['\x7b', '\x7b'] <:+: text.toList := by
  have found : bracedCatalog.find? "braced" = some bracedTemplate := rfl
  have opens : ∀ field ∈ bracedTemplate.fields, OpensPlaceholders field.2.toList := by
    decide +kernel
  have fits : bracedTemplate.schema.PlacesFit := by decide
  have parsed : attestationInstant (gapValues.find? Token.attestationTime) = .ok ⟨0, 0⟩ := rfl
  let filled : Binding := .atInstant ⟨0, 0⟩ bracedTemplate.schema gapValues "http://proxy"
  have closed : ∀ binding,
      Binding.make bracedTemplate.schema gapValues "http://proxy" = .ok binding →
        ∀ entry ∈ binding.entries, '\x7b' ∉ entry.2.toList := by
    intro binding made
    rw [← Except.ok.inj ((Binding.make_of_fits fits parsed).symm.trans made)]
    decide +kernel
  have complete : Renderer.firstFailure? ⟨filled, true⟩ bracedTemplate.fields = none := by
    decide +kernel
  have generated : generate .standard bracedCatalog ⟨"http://proxy", true⟩ "braced" gapValues =
      .ok (rendered ⟨filled, true⟩ bracedTemplate) := by
    rw [generate_of_ready found fits parsed (by decide +kernel), ofTemplate_eq, complete]
    rfl
  exact ⟨found, opens, closed, _, generated, by decide +kernel, by decide +kernel,
    strict_generation_leaves_no_opening .standard bracedCatalog "braced" bracedTemplate gapValues
      "http://proxy" _ found opens closed generated⟩

end Market

end PredictionMarket
