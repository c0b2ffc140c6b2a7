import Mathlib.Data.List.Nodup
import PredictionMarket.Dict

/-!
# Keys and entries of dictionaries

The three views of a dictionary (its entries, its keys, and what is found under a key)
agree, and a dictionary made from a list of pairs binds exactly the keys of the list, each
to the value of the last pair that has it. A list that already ascends is kept entry by
entry. Dictionaries in which the same is found under every key are equal.
-/

namespace PredictionMarket.Dict

variable {α : Type}

/-- The empty dictionary has no key. -/
@[simp] theorem keys_empty : (empty : Dict α).keys = [] := rfl

/-- The value found under a key is one of the entries. -/
theorem mem_of_lookupEntry {key : String} {value : α} {entries : List (String × α)}
    (found : lookupEntry key entries = some value) : (key, value) ∈ entries := by
  induction entries with
  | nil => simp [lookupEntry] at found
  | cons head tail inductionHypothesis =>
    by_cases here : key = head.1
    · simp only [lookupEntry, here, if_true, Option.some.injEq] at found
      have same : (key, value) = head := Prod.ext here found.symm
      exact same ▸ List.mem_cons_self
    · simp only [lookupEntry, here, if_false] at found
      exact List.mem_cons_of_mem _ (inductionHypothesis found)

/-- What is found in a dictionary is one of its entries. -/
theorem mem_of_find? {dict : Dict α} {key : String} {value : α}
    (found : dict.find? key = some value) : (key, value) ∈ dict.entries :=
  mem_of_lookupEntry found

/-- A value is found under the keys that are listed, and under no other. -/
theorem isSome_lookupEntry {key : String} {entries : List (String × α)} :
    (lookupEntry key entries).isSome = true ↔ key ∈ entries.map (·.1) := by
  induction entries with
  | nil => simp [lookupEntry]
  | cons head tail inductionHypothesis =>
    by_cases here : key = head.1
    · simp [lookupEntry, here]
    · simp [lookupEntry, here, inductionHypothesis]

/-- The bound keys are the listed ones. -/
theorem contains_iff {dict : Dict α} {key : String} :
    dict.contains key = true ↔ key ∈ dict.keys :=
  isSome_lookupEntry

/-- A key under which a value is found is listed. -/
theorem mem_keys_of_find? {dict : Dict α} {key : String} {value : α}
    (found : dict.find? key = some value) : key ∈ dict.keys :=
  contains_iff.1 (Option.isSome_iff_exists.2 ⟨value, found⟩)

/-- A listed key has a value. -/
theorem exists_find?_of_mem_keys {dict : Dict α} {key : String} (listed : key ∈ dict.keys) :
    ∃ value, dict.find? key = some value :=
  Option.isSome_iff_exists.1 (contains_iff.2 listed)

/-- An insertion binds its key besides those that were bound. -/
theorem contains_insert {dict : Dict α} {key name : String} {value : α} :
    (dict.insert key value).contains name = true ↔
      name = key ∨ dict.contains name = true := by
  rw [contains, find?_insert]
  by_cases same : name = key
  · simp [same]
  · simp [same, contains]

/-- The keys behind an insertion are the new one and those before it. -/
theorem mem_keys_insert {dict : Dict α} {key name : String} {value : α} :
    name ∈ (dict.insert key value).keys ↔ name = key ∨ name ∈ dict.keys := by
  rw [← contains_iff, contains_insert, contains_iff]

/-- Insertions in a row bind the keys of all pairs besides those that were bound. -/
theorem contains_foldl_insert {base : Dict α} {pairs : List (String × α)} {name : String} :
    (pairs.foldl (fun dict pair => dict.insert pair.1 pair.2) base).contains name = true ↔
      base.contains name = true ∨ name ∈ pairs.map (·.1) := by
  induction pairs generalizing base with
  | nil => simp
  | cons pair rest inductionHypothesis =>
    rw [List.foldl_cons, inductionHypothesis, contains_insert, List.map_cons,
      List.mem_cons, or_assoc, or_left_comm]

/-- A dictionary made from pairs binds exactly their keys. -/
theorem contains_ofList {pairs : List (String × α)} {name : String} :
    (ofList pairs).contains name = true ↔ name ∈ pairs.map (·.1) := by
  rw [ofList, contains_foldl_insert]
  simp [contains]

/-- A key above all keys of a list is inserted at its end. -/
theorem insertEntry_of_above {key : String} {value : α} {entries : List (String × α)}
    (above : ∀ entry ∈ entries, entry.1 < key) :
    insertEntry key value entries = entries ++ [(key, value)] := by
  induction entries with
  | nil => rfl
  | cons head tail inductionHypothesis =>
    have headBelow : head.1 < key := above head List.mem_cons_self
    have notBelow : ¬ key < head.1 := String.lt_asymm headBelow
    have different : key ≠ head.1 := fun same => String.lt_irrefl _ (same ▸ headBelow)
    rw [insertEntry, if_neg notBelow, if_neg different,
      inductionHypothesis fun entry member => above entry (List.mem_cons_of_mem _ member)]
    rfl

/-- Ascending pairs above all entries are inserted one behind the other. -/
theorem entries_foldl_insert (base : Dict α) {pairs : List (String × α)}
    (ascending : (base.entries ++ pairs).Pairwise fun left right => left.1 < right.1) :
    (pairs.foldl (fun dict pair => dict.insert pair.1 pair.2) base).entries =
      base.entries ++ pairs := by
  induction pairs generalizing base with
  | nil => simp
  | cons pair rest inductionHypothesis =>
    have above : ∀ entry ∈ base.entries, entry.1 < pair.1 := fun entry member =>
      (List.pairwise_append.1 ascending).2.2 entry member pair List.mem_cons_self
    have inserted : (base.insert pair.1 pair.2).entries = base.entries ++ [pair] :=
      insertEntry_of_above above
    rw [List.foldl_cons, inductionHypothesis, inserted, List.append_assoc,
      List.singleton_append]
    rw [inserted, List.append_assoc, List.singleton_append]
    exact ascending

/-- Ascending pairs are the entries of the dictionary made from them. -/
theorem entries_ofList {pairs : List (String × α)}
    (ascending : pairs.Pairwise fun left right => left.1 < right.1) :
    (ofList pairs).entries = pairs :=
  entries_foldl_insert empty ascending

/-- What is found in two lists in a row is found in the first one, or else in the second. -/
theorem lookupEntry_append (key : String) (first second : List (String × α)) :
    lookupEntry key (first ++ second) =
      (lookupEntry key first).or (lookupEntry key second) := by
  induction first with
  | nil => rfl
  | cons head tail inductionHypothesis =>
    by_cases here : key = head.1
    · simp [lookupEntry, here]
    · simp [lookupEntry, here, inductionHypothesis]

/-- After insertions in a row the last pair with a key decides, and what was bound before
counts for the other keys. -/
theorem find?_foldl_insert (base : Dict α) (pairs : List (String × α)) (key : String) :
    (pairs.foldl (fun dict pair => dict.insert pair.1 pair.2) base).find? key =
      (lookupEntry key pairs.reverse).or (base.find? key) := by
  induction pairs generalizing base with
  | nil => rfl
  | cons pair rest inductionHypothesis =>
    rw [List.foldl_cons, inductionHypothesis, find?_insert, List.reverse_cons,
      lookupEntry_append]
    by_cases here : key = pair.1
    · cases lookupEntry key rest.reverse <;> simp [lookupEntry, here]
    · cases lookupEntry key rest.reverse <;> simp [lookupEntry, here]

/-- A dictionary made from pairs binds a key to the value of its last pair. -/
theorem find?_ofList (pairs : List (String × α)) (key : String) :
    (ofList pairs).find? key = lookupEntry key pairs.reverse := by
  rw [ofList, find?_foldl_insert, find?_empty, Option.or_none]

/-- What is found under a key is the value of the first entry that has it. -/
theorem lookupEntry_eq_some_iff_first {key : String} {value : α} {entries : List (String × α)} :
    lookupEntry key entries = some value ↔ ∃ earlier later,
      entries = earlier ++ (key, value) :: later ∧ ∀ entry ∈ earlier, entry.1 ≠ key := by
  constructor
  · intro found
    induction entries with
    | nil => cases found
    | cons head tail inductionHypothesis =>
      by_cases here : key = head.1
      · rw [lookupEntry, if_pos here, Option.some_inj] at found
        exact ⟨[], tail, by rw [here, ← found]; rfl, by simp⟩
      · rw [lookupEntry, if_neg here] at found
        obtain ⟨earlier, later, rfl, absent⟩ := inductionHypothesis found
        exact ⟨head :: earlier, later, rfl, List.forall_mem_cons.2 ⟨Ne.symm here, absent⟩⟩
  · rintro ⟨earlier, later, rfl, absent⟩
    have noEarlier : lookupEntry key earlier = none := by
      rw [← Option.not_isSome_iff_eq_none, isSome_lookupEntry, List.mem_map]
      rintro ⟨entry, listed, same⟩
      exact absent entry listed same
    rw [lookupEntry_append, noEarlier]
    simp [lookupEntry]

/-- A pair of a list is the last one of its key. -/
def IsLast (pairs : List (String × α)) (key : String) (value : α) : Prop :=
  ∃ earlier later, pairs = earlier ++ (key, value) :: later ∧ ∀ pair ∈ later, pair.1 ≠ key

/-- A dictionary made from pairs binds a key to the value of the last pair that has it. -/
theorem find?_ofList_eq_some_iff {key : String} {value : α} {pairs : List (String × α)} :
    (ofList pairs).find? key = some value ↔ IsLast pairs key value := by
  rw [find?_ofList, lookupEntry_eq_some_iff_first]
  constructor
  · rintro ⟨later, earlier, turned, last⟩
    refine ⟨earlier.reverse, later.reverse, ?_, fun pair listed =>
      last pair (List.mem_reverse.1 listed)⟩
    rw [← List.reverse_reverse pairs, turned]
    simp
  · rintro ⟨earlier, later, rfl, last⟩
    exact ⟨later.reverse, earlier.reverse, by simp, fun pair listed =>
      last pair (List.mem_reverse.1 listed)⟩

/-- A dictionary made from pairs lacks the keys that no pair has. -/
theorem find?_ofList_eq_none_iff {key : String} {pairs : List (String × α)} :
    (ofList pairs).find? key = none ↔ ∀ pair ∈ pairs, pair.1 ≠ key := by
  have bound : ((ofList pairs).find? key).isSome = true ↔ key ∈ pairs.map (·.1) := contains_ofList
  rw [← Option.not_isSome_iff_eq_none, bound, List.mem_map]
  simp only [not_exists, not_and, ne_eq]

/-- What is found in a dictionary made from two lists is found in that of the second one, or else
in that of the first one. -/
theorem find?_ofList_append (first second : List (String × α)) (key : String) :
    (ofList (first ++ second)).find? key =
      ((ofList second).find? key).or ((ofList first).find? key) := by
  rw [find?_ofList, find?_ofList, find?_ofList, List.reverse_append, lookupEntry_append]

/-- An entry of a dictionary made from pairs is one of the pairs. -/
theorem mem_of_mem_ofList {pairs : List (String × α)} {entry : String × α}
    (listed : entry ∈ (ofList pairs).entries) : entry ∈ pairs := by
  have member : ∀ (base : Dict α), entry ∈
      (pairs.foldl (fun dict pair => dict.insert pair.1 pair.2) base).entries →
        entry ∈ base.entries ∨ entry ∈ pairs := by
    clear listed
    induction pairs with
    | nil => exact fun _ listed => .inl listed
    | cons pair rest inductionHypothesis =>
      intro base listed
      rcases inductionHypothesis _ listed with inserted | later
      · rcases mem_insertEntry inserted with rfl | older
        · exact .inr List.mem_cons_self
        · exact .inl older
      · exact .inr (List.mem_cons_of_mem _ later)
  exact (member empty listed).resolve_left (fun none => by cases none)

/-- When no key is listed twice, what is listed is what is found. -/
theorem lookupEntry_eq_some_iff {key : String} {value : α} {entries : List (String × α)}
    (distinct : (entries.map (·.1)).Nodup) :
    lookupEntry key entries = some value ↔ (key, value) ∈ entries := by
  refine ⟨mem_of_lookupEntry, fun member => ?_⟩
  induction entries with
  | nil => cases member
  | cons head tail inductionHypothesis =>
    rw [List.map_cons, List.nodup_cons] at distinct
    rcases List.mem_cons.1 member with rfl | later
    · simp [lookupEntry]
    · have different : key ≠ head.1 := by
        rintro rfl
        exact distinct.1 (List.mem_map.2 ⟨_, later, rfl⟩)
      rw [lookupEntry, if_neg different]
      exact inductionHypothesis distinct.2 later

/-- When no key is listed twice, the order of the list does not matter. -/
theorem lookupEntry_reverse {key : String} {entries : List (String × α)}
    (distinct : (entries.map (·.1)).Nodup) :
    lookupEntry key entries.reverse = lookupEntry key entries := by
  have turned : (entries.reverse.map (·.1)).Nodup := by
    rw [List.map_reverse]
    exact List.nodup_reverse.2 distinct
  refine Option.ext fun value => ?_
  rw [lookupEntry_eq_some_iff turned, lookupEntry_eq_some_iff distinct, List.mem_reverse]

/-- No key of a dictionary is listed twice. -/
theorem nodup_keys (dict : Dict α) : dict.keys.Nodup := by
  refine List.Pairwise.imp (fun below same => ?_) (List.pairwise_map.2 dict.ascending)
  exact String.lt_irrefl _ (same ▸ below)

/-- The entries of a dictionary are what is found in it. -/
theorem find?_eq_some_iff {dict : Dict α} {key : String} {value : α} :
    dict.find? key = some value ↔ (key, value) ∈ dict.entries :=
  lookupEntry_eq_some_iff dict.nodup_keys

/-- Dictionaries in which the same is found under every key are equal. -/
theorem eq_of_find?_eq {left right : Dict α}
    (same : ∀ key, left.find? key = right.find? key) : left = right := by
  have distinct : ∀ dict : Dict α, dict.entries.Nodup := fun dict =>
    List.Nodup.of_map _ dict.nodup_keys
  have members : ∀ entry, entry ∈ left.entries ↔ entry ∈ right.entries := fun entry => by
    rw [← find?_eq_some_iff, ← find?_eq_some_iff, same]
  refine Dict.ext (List.Perm.eq_of_pairwise (fun first second _ _ below above => ?_)
    left.ascending right.ascending
    ((List.perm_ext_iff_of_nodup (distinct left) (distinct right)).2 members))
  exact absurd (String.lt_trans below above) (String.lt_irrefl _)

/-- The entries that are kept. -/
def filter (keep : String → α → Bool) (dict : Dict α) : Dict α :=
  ⟨dict.entries.filter fun entry => keep entry.1 entry.2, dict.ascending.filter _⟩

/-- Under a key the value that was there is found, if it is kept. -/
theorem find?_filter (keep : String → α → Bool) (dict : Dict α) (key : String) :
    (dict.filter keep).find? key = (dict.find? key).filter (keep key) := by
  refine Option.ext fun value => ?_
  rw [find?_eq_some_iff, filter, List.mem_filter, ← find?_eq_some_iff,
    Option.filter_eq_some_iff]

/-- The dictionary made from the entries of a dictionary is that dictionary. -/
theorem ofList_entries (dict : Dict α) : ofList dict.entries = dict :=
  Dict.ext (entries_ofList dict.ascending)

variable {β : Type}

/-- Dictionaries that bind the same keys list them alike. -/
theorem keys_congr {left : Dict α} {right : Dict β}
    (same : ∀ key, left.contains key = right.contains key) : left.keys = right.keys := by
  have members : ∀ key, key ∈ left.keys ↔ key ∈ right.keys := fun key => by
    rw [← contains_iff, ← contains_iff, same]
  refine List.Perm.eq_of_pairwise (fun first second _ _ below above => ?_)
    (List.pairwise_map.2 left.ascending) (List.pairwise_map.2 right.ascending)
    ((List.perm_ext_iff_of_nodup left.nodup_keys right.nodup_keys).2 members)
  exact absurd (String.lt_trans below above) (String.lt_irrefl _)

/-- A function of the values keeps the keys. -/
theorem keys_map (f : α → β) (dict : Dict α) : (dict.map f).keys = dict.keys := by
  rw [keys, map, List.map_map]
  rfl

/-- A function of the values is a function of what is found. -/
theorem lookupEntry_map (f : α → β) (entries : List (String × α)) (key : String) :
    lookupEntry key (entries.map fun entry => (entry.1, f entry.2)) =
      (lookupEntry key entries).map f := by
  induction entries with
  | nil => rfl
  | cons head tail inductionHypothesis =>
    rw [List.map_cons, lookupEntry, lookupEntry, inductionHypothesis]
    split <;> rfl

/-- Under a key the function of the value that was there is found. -/
theorem find?_map (f : α → β) (dict : Dict α) (key : String) :
    (dict.map f).find? key = (dict.find? key).map f :=
  lookupEntry_map f dict.entries key

/-- A dictionary without entries binds nothing. -/
theorem isEmpty_iff {dict : Dict α} : dict.isEmpty = true ↔ dict = empty := by
  rw [isEmpty, List.isEmpty_iff]
  exact ⟨fun noEntries => Dict.ext noEntries, fun same => same ▸ rfl⟩

end PredictionMarket.Dict
