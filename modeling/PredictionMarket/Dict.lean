/-!
# Dictionaries

A dictionary maps texts to values and lists its entries by ascending key, in the
order of code points. The order belongs to the type, so two dictionaries with the
same bindings are equal, and every listing made from one is deterministic.
-/

namespace PredictionMarket

/-- Texts mapped to values, listed by strictly ascending key. -/
structure Dict (α : Type) where
  entries : List (String × α)
  ascending : entries.Pairwise fun left right => left.1 < right.1
deriving DecidableEq

namespace Dict

variable {α β : Type}

/-- Dictionaries with the same entries are equal. -/
@[ext] theorem ext {left right : Dict α} (same : left.entries = right.entries) :
    left = right := by
  cases left; cases right; cases same; rfl

/-- The dictionary that binds nothing. -/
def empty : Dict α := ⟨[], .nil⟩

instance : Inhabited (Dict α) := ⟨empty⟩

/-- The value of the first entry with the given key. -/
def lookupEntry (key : String) : List (String × α) → Option α
  | [] => none
  | entry :: rest => if key = entry.1 then some entry.2 else lookupEntry key rest

/-- The value bound to `key`, if there is one. -/
def find? (dict : Dict α) (key : String) : Option α := lookupEntry key dict.entries

/-- Whether `key` is bound. -/
def contains (dict : Dict α) (key : String) : Bool := (dict.find? key).isSome

/-- The bound keys, ascending. -/
def keys (dict : Dict α) : List String := dict.entries.map (·.1)

/-- The number of bound keys. -/
def size (dict : Dict α) : Nat := dict.entries.length

/-- Whether nothing is bound. -/
def isEmpty (dict : Dict α) : Bool := dict.entries.isEmpty

/-- Puts one entry into an ascending list, replacing an entry of the same key. -/
def insertEntry (key : String) (value : α) : List (String × α) → List (String × α)
  | [] => [(key, value)]
  | entry :: rest =>
    if key < entry.1 then (key, value) :: entry :: rest
    else if key = entry.1 then (key, value) :: rest
    else entry :: insertEntry key value rest

/-- Every entry after an insertion is the new one or was there before. -/
theorem mem_insertEntry {key : String} {value : α} {entries : List (String × α)}
    {entry : String × α} (member : entry ∈ insertEntry key value entries) :
    entry = (key, value) ∨ entry ∈ entries := by
  induction entries with
  | nil => simpa [insertEntry] using member
  | cons head tail inductionHypothesis =>
    unfold insertEntry at member
    split at member
    · simpa using member
    · split at member
      · rcases List.mem_cons.1 member with same | later
        · exact .inl same
        · exact .inr (List.mem_cons_of_mem _ later)
      · rcases List.mem_cons.1 member with same | later
        · exact .inr (same ▸ List.mem_cons_self)
        · rcases inductionHypothesis later with same | older
          · exact .inl same
          · exact .inr (List.mem_cons_of_mem _ older)

/-- Of two different texts that are not in order one way, the other way is. -/
theorem lt_of_not_lt_of_ne {left right : String} (notLess : ¬ left < right)
    (different : left ≠ right) : right < left := by
  rcases String.le_total left right with below | above
  · exact absurd (String.le_antisymm below notLess) different
  · exact Decidable.byContradiction fun notGreater =>
      different (String.le_antisymm notGreater notLess)

/-- Insertion keeps the keys strictly ascending. -/
theorem insertEntry_ascending {key : String} {value : α} {entries : List (String × α)}
    (ascending : entries.Pairwise fun left right => left.1 < right.1) :
    (insertEntry key value entries).Pairwise fun left right => left.1 < right.1 := by
  induction entries with
  | nil => simp [insertEntry]
  | cons head tail inductionHypothesis =>
    have headBelow : ∀ entry ∈ tail, head.1 < entry.1 := (List.pairwise_cons.1 ascending).1
    unfold insertEntry
    split
    case isTrue below =>
      refine List.pairwise_cons.2 ⟨fun entry member => ?_, ascending⟩
      rcases List.mem_cons.1 member with rfl | later
      · exact below
      · exact String.lt_trans below (headBelow _ later)
    case isFalse notBelow =>
      split
      case isTrue same =>
        subst same
        exact List.pairwise_cons.2 ⟨fun _ member => headBelow _ member, ascending.of_cons⟩
      case isFalse different =>
        refine List.pairwise_cons.2
          ⟨fun entry member => ?_, inductionHypothesis ascending.of_cons⟩
        rcases mem_insertEntry member with rfl | older
        · exact lt_of_not_lt_of_ne notBelow different
        · exact headBelow _ older

/-- Binds `key` to `value`, replacing what it was bound to. -/
def insert (dict : Dict α) (key : String) (value : α) : Dict α :=
  ⟨insertEntry key value dict.entries, insertEntry_ascending dict.ascending⟩

/-- The dictionary of a list of pairs, in which a later pair replaces an earlier
one of the same key. -/
def ofList (pairs : List (String × α)) : Dict α :=
  pairs.foldl (fun dict pair => dict.insert pair.1 pair.2) empty

/-- All bindings of `top`, and those of `base` for the keys that `top` lacks. -/
def overlay (base top : Dict α) : Dict α :=
  top.entries.foldl (fun dict pair => dict.insert pair.1 pair.2) base

/-- Applies a function to every value. -/
def map (f : α → β) (dict : Dict α) : Dict β :=
  ⟨dict.entries.map fun entry => (entry.1, f entry.2),
    List.pairwise_map.2 dict.ascending⟩

@[simp] theorem find?_empty (key : String) : (empty : Dict α).find? key = none := rfl

/-- Looking up a key after an insertion. -/
theorem lookupEntry_insertEntry (key name : String) (value : α)
    (entries : List (String × α)) :
    lookupEntry name (insertEntry key value entries) =
      if name = key then some value else lookupEntry name entries := by
  induction entries with
  | nil => simp [insertEntry, lookupEntry]
  | cons head tail inductionHypothesis =>
    unfold insertEntry
    split
    · simp [lookupEntry]
    · split
      case isTrue same =>
        subst same
        by_cases here : name = head.1 <;> simp [lookupEntry, here]
      case isFalse different =>
        by_cases here : name = head.1
        · simp [lookupEntry, here, Ne.symm different]
        · simp [lookupEntry, here, inductionHypothesis]

/-- An insertion changes the binding of its key and no other. -/
theorem find?_insert (dict : Dict α) (key name : String) (value : α) :
    (dict.insert key value).find? name =
      if name = key then some value else dict.find? name :=
  lookupEntry_insertEntry key name value dict.entries

end Dict

end PredictionMarket
