import Mathlib.Data.List.Basic
import PredictionMarket.Proofs.Dictionary
import PredictionMarket.Proofs.Rendering.Placeholder
import PredictionMarket.Rendering

/-!
# Cuts of a text

Cutting a text goes from slot to slot and from character to character; `ofText_induction`
is that walk as an induction principle. A cut loses nothing (`fill_token`), no key is left
between its slots (`not_mem_of_mem_names`), and when no brace stands in a key the first
placeholder that is left is the first one of the whole text that is no key
(`unresolved?_ofText`).
-/

namespace PredictionMarket

open Placeholder

namespace Cut

variable {keys : List String}

/-- The key of a slot is one of the keys, and its token begins the text. -/
theorem slotAt?_eq_some {text : List Char} {key : String} (found : slotAt? keys text = some key) :
    key ∈ keys ∧ token key.toList <+: text := by
  unfold slotAt? at found
  have stands : (token key.toList).isPrefixOf text = true :=
    List.find?_some (p := fun key : String => (token key.toList).isPrefixOf text) found
  exact ⟨List.mem_of_find?_eq_some found, List.isPrefixOf_iff_prefix.1 stands⟩

/-- A text begins with no slot when it begins with the token of no key. -/
theorem slotAt?_eq_none_iff {text : List Char} :
    slotAt? keys text = none ↔ ∀ key ∈ keys, ¬ token key.toList <+: text := by
  rw [slotAt?, List.find?_eq_none]
  exact forall₂_congr fun key _ => not_congr List.isPrefixOf_iff_prefix

/-- Skipping a stretch of text leaves the cut of what follows it. -/
theorem afterSkip_append (front rest : List Char) :
    afterSkip keys front.length (front ++ rest) = ofText keys rest := by
  induction front with
  | nil => rfl
  | cons c front inductionHypothesis => exact inductionHypothesis

/-- A slot at the beginning is followed by the cut of the text behind it. -/
theorem ofText_slot {key : String} {rest : List Char}
    (found : slotAt? keys (token key.toList ++ rest) = some key) :
    ofText keys (token key.toList ++ rest) =
      ⟨[], (key, (ofText keys rest).lead) :: (ofText keys rest).slots⟩ := by
  have width : key.length + 3 = ('\x7b' :: (key.toList ++ ['\x7d', '\x7d'])).length := by
    simp [String.length_toList]
  have behind : afterSkip keys (key.length + 3)
      ('\x7b' :: (key.toList ++ ['\x7d', '\x7d']) ++ rest) = ofText keys rest := by
    rw [width, afterSkip_append]
  rw [token, List.cons_append] at found ⊢
  rw [ofText, afterSkip, found]
  dsimp only
  rw [behind]

/-- A character at which no slot begins is kept in front of the cut of what follows. -/
theorem ofText_kept {c : Char} {rest : List Char} (free : slotAt? keys (c :: rest) = none) :
    ofText keys (c :: rest) = ⟨c :: (ofText keys rest).lead, (ofText keys rest).slots⟩ := by
  rw [ofText, afterSkip, free]
  rfl

/-- What holds of the empty text, and of a text whenever it holds behind its first slot or
its first character outside slots, holds of every text. -/
theorem ofText_induction (keys : List String) {motive : List Char → Prop} (nil : motive [])
    (slot : ∀ key rest, slotAt? keys (token key.toList ++ rest) = some key → motive rest →
      motive (token key.toList ++ rest))
    (kept : ∀ c rest, slotAt? keys (c :: rest) = none → motive rest → motive (c :: rest))
    (text : List Char) : motive text := by
  induction length : text.length using Nat.strongRecOn generalizing text with
  | ind bound inductionHypothesis =>
    cases text with
    | nil => exact nil
    | cons c rest =>
      cases found : slotAt? keys (c :: rest) with
      | none =>
        have shorter : rest.length < bound := length ▸ Nat.lt_succ_self _
        exact kept c rest found (inductionHypothesis rest.length shorter rest rfl)
      | some key =>
        obtain ⟨behind, same⟩ := (slotAt?_eq_some found).2
        have shorter : behind.length < bound := by
          rw [← length, ← same, List.length_append, length_token]
          omega
        rw [← same] at found ⊢
        exact slot key behind found (inductionHypothesis behind.length shorter behind rfl)

/-- Keys under which the same tokens begin a text have the same slot there. When no brace stands
in a key at most one key has, so the order of the keys makes no difference. -/
theorem slotAt?_congr {order : List String} (free : ∀ key ∈ keys, BraceFree key.toList)
    {text : List Char}
    (same : ∀ key, token key.toList <+: text → (key ∈ order ↔ key ∈ keys)) :
    slotAt? order text = slotAt? keys text := by
  cases found : slotAt? keys text with
  | none =>
    rw [slotAt?_eq_none_iff] at found ⊢
    exact fun key inOrder stands => found key ((same key stands).1 inOrder) stands
  | some key =>
    obtain ⟨isKey, stands⟩ := slotAt?_eq_some found
    cases inOrder : slotAt? order text with
    | none => exact absurd stands (slotAt?_eq_none_iff.1 inOrder key ((same key stands).2 isKey))
    | some other =>
      obtain ⟨otherInOrder, otherStands⟩ := slotAt?_eq_some inOrder
      have otherFree := free other ((same other otherStands).1 otherInOrder)
      rw [String.toList_inj.1 (name_eq_of_begins otherFree (free key isKey) otherStands stands)]

/-- When no brace stands in a key, a cut depends only on the keys whose tokens stand in the
text. -/
theorem ofText_congr_of_infix {order : List String} (free : ∀ key ∈ keys, BraceFree key.toList)
    {text : List Char}
    (same : ∀ key, token key.toList <:+: text → (key ∈ order ↔ key ∈ keys)) :
    ofText order text = ofText keys text := by
  induction text using ofText_induction keys with
  | nil => rfl
  | slot key rest found inductionHypothesis =>
    have here := slotAt?_congr free fun other begins => same other begins.isInfix
    have behind := inductionHypothesis fun other stands =>
      same other (stands.trans (List.suffix_append _ rest).isInfix)
    rw [ofText_slot found, ofText_slot (here.trans found), behind]
  | kept c rest noSlot inductionHypothesis =>
    have here := slotAt?_congr free fun other begins => same other begins.isInfix
    have behind := inductionHypothesis fun other stands => same other (List.infix_cons stands)
    rw [ofText_kept noSlot, ofText_kept (here.trans noSlot), behind]

/-- When no brace stands in a key, the order of the keys makes no difference to a cut. -/
theorem ofText_congr {order : List String} (free : ∀ key ∈ keys, BraceFree key.toList)
    (same : ∀ key, key ∈ order ↔ key ∈ keys) (text : List Char) :
    ofText order text = ofText keys text :=
  ofText_congr_of_infix free fun key _ => same key

section Fill

variable (value : String → List Char)

/-- Filling a cut that begins with a slot. -/
theorem fill_slot {key : String} {rest : List Char}
    (found : slotAt? keys (token key.toList ++ rest) = some key) :
    (ofText keys (token key.toList ++ rest)).fill value =
      value key ++ (ofText keys rest).fill value := by
  rw [ofText_slot found]
  simp [fill]

/-- Filling a cut that begins with a character outside slots. -/
theorem fill_kept {c : Char} {rest : List Char} (free : slotAt? keys (c :: rest) = none) :
    (ofText keys (c :: rest)).fill value = c :: (ofText keys rest).fill value := by
  rw [ofText_kept free]
  rfl

/-- Values that are the same for the slots of a cut fill it alike. -/
theorem fill_congr {cut : Cut} {other : String → List Char}
    (same : ∀ slot ∈ cut.slots, value slot.1 = other slot.1) : cut.fill value = cut.fill other := by
  rw [fill, fill, List.flatMap_congr fun slot listed => by rw [same slot listed]]

end Fill

/-- A cut filled with the tokens of its keys is the text that was cut. -/
theorem fill_token (keys : List String) (text : List Char) :
    (ofText keys text).fill (fun key => token key.toList) = text := by
  induction text using ofText_induction keys with
  | nil => rfl
  | slot key rest found inductionHypothesis => rw [fill_slot _ found, inductionHypothesis]
  | kept c rest free inductionHypothesis => rw [fill_kept _ free, inductionHypothesis]

/-- The slots of a cut hold keys. -/
theorem mem_keys_of_mem_slots {text : List Char} {slot : String × List Char}
    (member : slot ∈ (ofText keys text).slots) : slot.1 ∈ keys := by
  induction text using ofText_induction keys with
  | nil => cases member
  | slot key rest found inductionHypothesis =>
    rw [ofText_slot found] at member
    rcases List.mem_cons.1 member with rfl | later
    · exact (slotAt?_eq_some found).1
    · exact inductionHypothesis later
  | kept c rest free inductionHypothesis =>
    rw [ofText_kept free] at member
    exact inductionHypothesis member

/-- Cutting off the slots behind the first character of a text keeps the placeholder with
which the text begins. -/
theorem nameAt?_cons_lead (keys : List String) (c : Char) (rest : List Char) :
    nameAt? (c :: (ofText keys rest).lead) = nameAt? (c :: rest) := by
  have whole := fill_token keys rest
  generalize ofText keys rest = cut at whole ⊢
  obtain ⟨lead, slots⟩ := cut
  subst whole
  cases slots with
  | nil => simp [fill]
  | cons slot slots =>
    have opened := nameAt?_append_opening (List.cons_ne_nil c lead)
      (slot.1.toList ++ '\x7d' :: '\x7d' :: fill ⟨slot.2, slots⟩ fun key => token key.toList)
    rw [← token_append] at opened
    simpa [fill] using opened.symm

/-- A placeholder with which a text begins, and which is no slot, is left by the cut. -/
theorem unresolved?_of_nameAt? {c : Char} {rest name : List Char}
    (free : slotAt? keys (c :: rest) = none) (named : nameAt? (c :: rest) = some name) :
    (ofText keys (c :: rest)).unresolved? = some name := by
  rw [← nameAt?_cons_lead keys] at named
  rw [ofText_kept free, unresolved?, stretches, List.findSome?_cons, names_cons, named]
  rfl

/-- What the cut behind a slot leaves is left by the whole cut. -/
theorem unresolved?_slot {key : String} {rest : List Char}
    (found : slotAt? keys (token key.toList ++ rest) = some key) :
    (ofText keys (token key.toList ++ rest)).unresolved? = (ofText keys rest).unresolved? := by
  rw [ofText_slot found]
  rfl

/-- When a cut leaves nothing, neither does the cut behind the first character. -/
theorem unresolved?_kept {c : Char} {rest : List Char}
    (free : slotAt? keys (c :: rest) = none)
    (resolved : (ofText keys (c :: rest)).unresolved? = none) :
    (ofText keys rest).unresolved? = none := by
  rw [ofText_kept free, unresolved?, stretches, List.findSome?_eq_none_iff,
    List.forall_mem_cons, names_cons] at resolved
  rw [unresolved?, stretches, List.findSome?_eq_none_iff, List.forall_mem_cons]
  refine ⟨?_, resolved.2⟩
  rw [List.head?_eq_none_iff] at resolved ⊢
  exact (List.append_eq_nil_iff.1 resolved.1).2

/-- No key is the name of a placeholder that is left between the slots. -/
theorem not_mem_of_mem_names {text stretch name : List Char}
    (between : stretch ∈ (ofText keys text).stretches) (left : name ∈ names stretch) :
    String.ofList name ∉ keys := by
  induction text using ofText_induction keys generalizing stretch with
  | nil =>
    cases List.mem_singleton.1 between
    cases left
  | slot key rest found inductionHypothesis =>
    rw [ofText_slot found] at between
    rcases List.mem_cons.1 between with rfl | later
    · cases left
    · exact inductionHypothesis later left
  | kept c rest free inductionHypothesis =>
    rw [ofText_kept free] at between
    rcases List.mem_cons.1 between with rfl | later
    · rw [names_cons, List.mem_append, Option.mem_toList] at left
      rcases left with here | later
      · -- The placeholder would begin the text, and so would the slot of its name.
        intro isKey
        rw [nameAt?_cons_lead] at here
        obtain ⟨-, -, stands⟩ := nameAt?_eq_some_iff.1 here
        exact slotAt?_eq_none_iff.1 free _ isKey (by rwa [String.toList_ofList])
      · exact inductionHypothesis List.mem_cons_self later
    · exact inductionHypothesis (List.mem_cons_of_mem _ later) left

/-- What fills a slot stands in the filled text, in front of what follows the slot. -/
theorem slot_infix_fill {cut : Cut} (value : String → List Char) {slot : String × List Char}
    (listed : slot ∈ cut.slots) : value slot.1 ++ slot.2 <:+: cut.fill value := by
  have among : value slot.1 ++ slot.2 <:+:
      cut.slots.flatMap fun slot => value slot.1 ++ slot.2 :=
    List.infix_of_mem_flatten (List.mem_map_of_mem listed)
  exact among.trans (List.suffix_append _ _).isInfix

/-- A stretch of a cut stands in the filled text, whatever fills the slots. -/
theorem stretch_infix_fill {cut : Cut} (value : String → List Char) {stretch : List Char}
    (between : stretch ∈ cut.stretches) : stretch <:+: cut.fill value := by
  rcases List.mem_cons.1 between with rfl | later
  · exact (List.prefix_append _ _).isInfix
  · obtain ⟨slot, listed, rfl⟩ := List.mem_map.1 later
    exact (List.suffix_append _ _).isInfix.trans (slot_infix_fill value listed)

/-- The token of a slot stands in the text that was cut. -/
theorem token_infix_of_mem_slots {text : List Char} {slot : String × List Char}
    (listed : slot ∈ (ofText keys text).slots) : token slot.1.toList <:+: text := by
  have stands := slot_infix_fill (fun key => token key.toList) listed
  rw [fill_token] at stands
  exact (List.prefix_append _ _).isInfix.trans stands

/-- A placeholder that is left between the slots is one of the text. -/
theorem mem_names_of_mem_stretches {text stretch name : List Char}
    (between : stretch ∈ (ofText keys text).stretches) (left : name ∈ names stretch) :
    name ∈ names text := by
  have stands := stretch_infix_fill (fun key => token key.toList) between
  rw [fill_token] at stands
  obtain ⟨named, free, within⟩ := mem_names_iff.1 left
  exact mem_names_iff.2 ⟨named, free, within.trans stands⟩

/-- The placeholders of a filled text, when the slots are filled with tokens: those of the
stretches, and between them those of the slots. -/
theorem names_fill_token {cut : Cut}
    (free : ∀ slot ∈ cut.slots, BraceFree slot.1.toList) :
    names (cut.fill fun key => token key.toList) =
      names cut.lead ++
        cut.slots.flatMap fun slot => tokenNames slot.1.toList ++ names slot.2 := by
  obtain ⟨lead, slots⟩ := cut
  induction slots generalizing lead with
  | nil => simp [fill]
  | cons slot slots inductionHypothesis =>
    obtain ⟨slotFree, later⟩ := List.forall_mem_cons.1 free
    have behind := inductionHypothesis slot.2 later
    have apart := names_append_opening lead
      (slot.1.toList ++ '\x7d' :: '\x7d' :: fill ⟨slot.2, slots⟩ fun key => token key.toList)
    rw [← token_append, names_token_append slotFree, behind] at apart
    simpa [fill] using apart

/-- When no brace stands in a key, the placeholders of a text whose names are no keys are
those that are left between the slots, in the same order. -/
theorem filter_names (free : ∀ key ∈ keys, BraceFree key.toList) (text : List Char) :
    (names text).filter (fun name => String.ofList name ∉ keys) =
      (ofText keys text).stretches.flatMap names := by
  have slotFree : ∀ slot ∈ (ofText keys text).slots, BraceFree slot.1.toList :=
    fun slot member => free _ (mem_keys_of_mem_slots member)
  have whole := names_fill_token slotFree
  rw [fill_token] at whole
  have between : ∀ stretch ∈ (ofText keys text).stretches,
      (names stretch).filter (fun name => String.ofList name ∉ keys) = names stretch := by
    intro stretch member
    rw [List.filter_eq_self]
    intro name left
    simpa using not_mem_of_mem_names member left
  have within : ∀ slot ∈ (ofText keys text).slots,
      (tokenNames slot.1.toList).filter (fun name => String.ofList name ∉ keys) = [] := by
    intro slot member
    have isKey := mem_keys_of_mem_slots member
    unfold tokenNames
    split <;> simp [isKey]
  obtain ⟨leadKept, laterKept⟩ := List.forall_mem_cons.1 between
  rw [whole, List.filter_append, leadKept, stretches, List.flatMap_cons, List.filter_flatMap,
    List.flatMap_map]
  refine congrArg (_ ++ ·) (List.flatMap_congr fun slot member => ?_)
  rw [List.filter_append, within slot member, List.nil_append,
    laterKept slot.2 (List.mem_map_of_mem member)]

/-- When no brace stands in a key, the first placeholder that is left between the slots of
a text is the first one of the text whose name is no key. -/
theorem unresolved?_ofText (free : ∀ key ∈ keys, BraceFree key.toList) (text : List Char) :
    (ofText keys text).unresolved? =
      (names text).find? fun name => String.ofList name ∉ keys := by
  rw [← List.head?_filter, filter_names free, List.head?_flatMap, unresolved?]

end Cut

/-- The text for which a key of a binding stands. -/
def Binding.valueOf (binding : Binding) (key : String) : List Char :=
  ((binding.find? key).getD "").toList

/-- A key of a binding stands for one of its values. -/
theorem Binding.exists_valueOf {binding : Binding} {key : String} (isKey : key ∈ binding.keys) :
    ∃ value, (key, value) ∈ binding.entries ∧ binding.valueOf key = value.toList := by
  obtain ⟨value, bound⟩ := Dict.exists_find?_of_mem_keys isKey
  exact ⟨value, Dict.mem_of_find? bound, by simp [valueOf, bound]⟩

/-- Rendering fills the slots of the binding. -/
theorem Renderer.toList_apply (renderer : Renderer) (text : String) :
    (renderer.apply text).toList =
      (Cut.ofText renderer.binding.keys text.toList).fill renderer.binding.valueOf :=
  String.toList_ofList

end PredictionMarket
