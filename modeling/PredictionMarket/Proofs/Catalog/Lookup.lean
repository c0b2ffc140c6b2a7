import Mathlib.Data.List.Nodup
import PredictionMarket.Catalog
import PredictionMarket.Proofs.Dictionary

/-!
# Finding templates

The index of a catalog is built identifier by identifier. It leads from each identifier to the one
position where it stands (`find?_of_indexFrom`), so looking an identifier up through the index finds
the template that a search through the whole list would find (`Catalog.find?_eq_search`).
-/

namespace PredictionMarket

section Index

variable {index result : Dict Nat} {position place : Nat} {ids : List String} {id : String}

/-- An index is built exactly from identifiers that are pairwise different and not known yet. -/
theorem exists_indexFrom_iff :
    (∃ result, indexFrom index position ids = .ok result) ↔
      ids.Nodup ∧ ∀ id ∈ ids, id ∉ index.keys := by
  induction ids generalizing index position with
  | nil => simp [indexFrom]
  | cons head tail inductionHypothesis =>
    unfold indexFrom
    split
    case isTrue known =>
      refine iff_of_false (by simp) fun fresh => ?_
      exact fresh.2 head List.mem_cons_self (Dict.contains_iff.1 known)
    case isFalse unknown =>
      rw [Dict.contains_iff] at unknown
      rw [inductionHypothesis, List.nodup_cons, List.forall_mem_cons]
      simp only [Dict.mem_keys_insert, not_or, forall₂_and]
      constructor
      · rintro ⟨distinct, other, fresh⟩
        exact ⟨⟨fun again => other head again rfl, distinct⟩, unknown, fresh⟩
      · rintro ⟨⟨once, distinct⟩, -, fresh⟩
        exact ⟨distinct, fun other listed same => once (same ▸ listed), fresh⟩

/-- Building an index fails exactly at the first identifier that is known already or repeats an
earlier one. -/
theorem indexFrom_eq_error_iff {failure : Failure} :
    indexFrom index position ids = .error failure ↔
      ∃ before id after, ids = before ++ id :: after ∧ before.Nodup ∧
        (∀ other ∈ before, other ∉ index.keys) ∧ (id ∈ index.keys ∨ id ∈ before) ∧
        failure = .catalog (.duplicateId id) := by
  induction ids generalizing index position with
  | nil => simp [indexFrom]
  | cons head tail inductionHypothesis =>
    unfold indexFrom
    split
    case isTrue known =>
      have isKnown := Dict.contains_iff.1 known
      constructor
      · rintro ⟨⟩
        exact ⟨[], head, tail, rfl, .nil, by simp, .inl isKnown, rfl⟩
      · rintro ⟨before, id, after, split, -, fresh, -, rfl⟩
        cases before with
        | nil => rw [(List.cons.inj split).1]
        | cons first before =>
          cases (List.cons.inj split).1
          exact absurd isKnown (fresh head List.mem_cons_self)
    case isFalse unknown =>
      rw [Dict.contains_iff] at unknown
      rw [inductionHypothesis]
      constructor
      · rintro ⟨before, id, after, rfl, distinct, fresh, repeats, rfl⟩
        simp only [Dict.mem_keys_insert, not_or] at fresh repeats
        refine ⟨head :: before, id, after, rfl, List.nodup_cons.2 ⟨?_, distinct⟩, ?_, ?_, rfl⟩
        · exact fun again => (fresh head again).1 rfl
        · exact List.forall_mem_cons.2 ⟨unknown, fun other listed => (fresh other listed).2⟩
        · rw [List.mem_cons]
          tauto
      · rintro ⟨before, id, after, split, distinct, fresh, repeats, rfl⟩
        cases before with
        | nil =>
          cases (List.cons.inj split).1
          simp [unknown] at repeats
        | cons first before =>
          obtain ⟨rfl, rfl⟩ := List.cons.inj split
          obtain ⟨once, distinct⟩ := List.nodup_cons.1 distinct
          refine ⟨before, id, after, rfl, distinct, fun other listed => ?_, ?_, rfl⟩
          · rw [Dict.mem_keys_insert, not_or]
            exact ⟨fun same => once (same ▸ listed), fresh other (List.mem_cons_of_mem _ listed)⟩
          · rw [List.mem_cons] at repeats
            rw [Dict.mem_keys_insert]
            tauto

/-- An index leads to where an identifier stands, besides what was known before. -/
theorem find?_of_indexFrom (built : indexFrom index position ids = .ok result) :
    result.find? id = some place ↔ index.find? id = some place ∨
      ∃ offset, ids[offset]? = some id ∧ place = position + offset := by
  induction ids generalizing index position with
  | nil =>
    cases built
    simp
  | cons head tail inductionHypothesis =>
    unfold indexFrom at built
    split at built
    case isTrue => cases built
    case isFalse unknown =>
      rw [inductionHypothesis built, Dict.find?_insert]
      -- The identifier at the head has no other place, neither before nor behind.
      have fresh := (exists_indexFrom_iff.1 ⟨result, built⟩).2
      have behind : (∃ offset, (head :: tail)[offset]? = some id ∧ place = position + offset) ↔
          (id = head ∧ place = position) ∨
            ∃ offset, tail[offset]? = some id ∧ place = position + 1 + offset := by
        constructor
        · rintro ⟨_ | offset, stands, rfl⟩
          · exact .inl ⟨(Option.some.inj stands).symm, rfl⟩
          · exact .inr ⟨offset, stands, by omega⟩
        · rintro (⟨rfl, rfl⟩ | ⟨offset, stands, rfl⟩)
          · exact ⟨0, rfl, rfl⟩
          · exact ⟨offset + 1, stands, by omega⟩
      rw [behind]
      split
      · next same =>
        have notKnown : index.find? id ≠ some place := fun known =>
          unknown (Dict.contains_iff.2 (same ▸ Dict.mem_keys_of_find? known))
        simp only [notKnown, false_or]
        simp [same, eq_comm]
      · next different => simp only [different, false_and, false_or]

end Index

namespace Catalog

variable {catalog : Catalog} {id : String} {template : Template}

/-- The identifiers of a catalog are pairwise different. -/
theorem distinct (catalog : Catalog) : (catalog.templates.map Template.id).Nodup :=
  (exists_indexFrom_iff.1 ⟨_, catalog.indexed⟩).1

/-- The index leads to the position where an identifier stands. -/
theorem find?_index {position : Nat} :
    catalog.index.find? id = some position ↔
      (catalog.templates[position]?).map Template.id = some id := by
  rw [find?_of_indexFrom catalog.indexed]
  simp [← List.getElem?_map]

/-- What is found is a template with the identifier, and the other way round. -/
theorem find?_eq_some_iff :
    catalog.find? id = some template ↔ template ∈ catalog.templates ∧ template.id = id := by
  rw [find?, Option.bind_eq_some_iff]
  constructor
  · rintro ⟨position, leads, stands⟩
    rw [find?_index, stands] at leads
    exact ⟨List.mem_of_getElem? stands, Option.some.inj leads⟩
  · rintro ⟨listed, rfl⟩
    obtain ⟨position, stands⟩ := List.mem_iff_getElem?.1 listed
    exact ⟨position, find?_index.2 (by rw [stands]; rfl), stands⟩

/-- Nothing is found exactly when no template has the identifier. -/
theorem find?_eq_none_iff :
    catalog.find? id = none ↔ ∀ template ∈ catalog.templates, template.id ≠ id := by
  rw [Option.eq_none_iff_forall_ne_some]
  exact forall_congr' fun template => by rw [ne_eq, find?_eq_some_iff, not_and]

/-- Looking an identifier up through the index agrees with a search through the templates. -/
theorem find?_eq_search (catalog : Catalog) (id : String) :
    catalog.find? id = catalog.templates.find? fun template => template.id == id := by
  cases searched : catalog.templates.find? fun template => template.id == id with
  | none =>
    rw [List.find?_eq_none] at searched
    exact find?_eq_none_iff.2 fun template listed same =>
      searched template listed (beq_iff_eq.2 same)
  | some template =>
    exact find?_eq_some_iff.2 ⟨List.mem_of_find?_eq_some searched,
      beq_iff_eq.1 (List.find?_some (p := fun template : Template => template.id == id) searched)⟩

end Catalog

end PredictionMarket
