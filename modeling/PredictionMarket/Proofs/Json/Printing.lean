import PredictionMarket.Proofs.Dictionary
import PredictionMarket.Proofs.Json.Spelling

/-!
# Printed values are read back

Both texts of a value spell it, but for the order of the members: an object that is read lists
its members by ascending name (`normal`). The parser has room for so many containers inside one
another, and every number must be read back from its own text; integers always are.
-/

namespace PredictionMarket

/-- A number is read from its own text. -/
def Number.ReadsBack (value : Number) : Prop := Json.number? value.text = some (value, [])

namespace Json

mutual

/-- How many containers stand inside one another. -/
def depth : Json → Nat
  | null | bool _ | number _ | string _ => 0
  | array elements => depthOfElements elements + 1
  | object members => depthOfMembers members + 1

/-- How many containers stand inside one another in elements. -/
def depthOfElements : List Json → Nat
  | [] => 0
  | element :: rest => max element.depth (depthOfElements rest)

/-- How many containers stand inside one another in members. -/
def depthOfMembers : List (String × Json) → Nat
  | [] => 0
  | (_, value) :: rest => max value.depth (depthOfMembers rest)

end

mutual

/-- The numbers in a value. -/
def numbers : Json → List Number
  | null | bool _ | string _ => []
  | number value => [value]
  | array elements => numbersOfElements elements
  | object members => numbersOfMembers members

/-- The numbers in elements. -/
def numbersOfElements : List Json → List Number
  | [] => []
  | element :: rest => element.numbers ++ numbersOfElements rest

/-- The numbers in members. -/
def numbersOfMembers : List (String × Json) → List Number
  | [] => []
  | (_, value) :: rest => value.numbers ++ numbersOfMembers rest

end

mutual

/-- The value whose objects list their members by ascending name, each name once. -/
def normal : Json → Json
  | null => null
  | bool value => bool value
  | number value => number value
  | string value => string value
  | array elements => array (normalElements elements)
  | object members => ofMembers (normalMembers members)

/-- The elements with their members by ascending name. -/
def normalElements : List Json → List Json
  | [] => []
  | element :: rest => element.normal :: normalElements rest

/-- The members with their own members by ascending name. -/
def normalMembers : List (String × Json) → List (String × Json)
  | [] => []
  | (name, value) :: rest => (name, value.normal) :: normalMembers rest

end

/-- Elements are put in order one by one. -/
theorem normalElements_eq (elements : List Json) :
    normalElements elements = elements.map normal := by
  induction elements with
  | nil => rfl
  | cons element rest inductionHypothesis =>
    rw [normalElements, inductionHypothesis, List.map_cons]

/-- Members are put in order one by one. -/
theorem normalMembers_eq (members : List (String × Json)) :
    normalMembers members = members.map fun member => (member.1, member.2.normal) := by
  induction members with
  | nil => rfl
  | cons member rest inductionHypothesis =>
    rw [normalMembers, inductionHypothesis, List.map_cons]

/-- Elements in order are in order one by one. -/
theorem normal_array {elements : List Json}
    (inOrder : ∀ element ∈ elements, element.normal = element) :
    (array elements).normal = array elements := by
  rw [normal, normalElements_eq, List.map_congr_left inOrder, List.map_id']

/-- Members by ascending name are in order when their values are. -/
theorem normal_ofMembers {members : List (String × Json)}
    (inOrder : ∀ member ∈ members, member.2.normal = member.2) :
    (ofMembers members).normal = ofMembers members := by
  have same : (Dict.ofList members).entries.map (fun member => (member.1, member.2.normal)) =
      (Dict.ofList members).entries :=
    (List.map_congr_left fun member listed =>
      congrArg (member.1, ·) (inOrder member (Dict.mem_of_mem_ofList listed))).trans
        (List.map_id' _)
  rw [ofMembers, normal, normalMembers_eq, same, ofMembers, Dict.ofList_entries]

/-- A value fits the room of a reader, and its numbers are read back. -/
structure Readable (room : Nat) (value : Json) : Prop where
  fits : value.depth ≤ room
  readsBack : ∀ number ∈ value.numbers, number.ReadsBack

section Readable

variable {room : Nat}

/-- Elements have room when each of them does. -/
theorem depthOfElements_le_iff {elements : List Json} :
    depthOfElements elements ≤ room ↔ ∀ element ∈ elements, element.depth ≤ room := by
  induction elements with
  | nil => simp [depthOfElements]
  | cons element rest inductionHypothesis =>
    rw [depthOfElements, Nat.max_le, inductionHypothesis, List.forall_mem_cons]

/-- Members have room when each of their values does. -/
theorem depthOfMembers_le_iff {members : List (String × Json)} :
    depthOfMembers members ≤ room ↔ ∀ member ∈ members, member.2.depth ≤ room := by
  induction members with
  | nil => simp [depthOfMembers]
  | cons member rest inductionHypothesis =>
    rw [depthOfMembers, Nat.max_le, inductionHypothesis, List.forall_mem_cons]

/-- The numbers in elements are those in each of them. -/
theorem mem_numbersOfElements {elements : List Json} {number : Number} :
    number ∈ numbersOfElements elements ↔ ∃ element ∈ elements, number ∈ element.numbers := by
  induction elements with
  | nil => simp [numbersOfElements]
  | cons element rest inductionHypothesis =>
    simp [numbersOfElements, inductionHypothesis]

/-- The numbers in members are those in each of their values. -/
theorem mem_numbersOfMembers {members : List (String × Json)} {number : Number} :
    number ∈ numbersOfMembers members ↔ ∃ member ∈ members, number ∈ member.2.numbers := by
  induction members with
  | nil => simp [numbersOfMembers]
  | cons member rest inductionHypothesis =>
    simp [numbersOfMembers, inductionHypothesis]

/-- An array is readable when its elements are. -/
theorem readable_array_iff {elements : List Json} :
    Readable (room + 1) (array elements) ↔ ∀ element ∈ elements, Readable room element := by
  have fits : (array elements).depth ≤ room + 1 ↔ ∀ element ∈ elements, element.depth ≤ room := by
    rw [depth, Nat.succ_le_succ_iff, depthOfElements_le_iff]
  refine ⟨fun readable element listed => ⟨fits.1 readable.fits element listed, ?_⟩,
    fun all => ⟨fits.2 fun element listed => (all element listed).fits, ?_⟩⟩
  · exact fun number member =>
      readable.readsBack number (mem_numbersOfElements.2 ⟨element, listed, member⟩)
  · intro number member
    obtain ⟨element, listed, inside⟩ := mem_numbersOfElements.1 member
    exact (all element listed).readsBack number inside

/-- An object is readable when its members are. -/
theorem readable_object_iff {members : List (String × Json)} :
    Readable (room + 1) (object members) ↔ ∀ member ∈ members, Readable room member.2 := by
  have fits : (object members).depth ≤ room + 1 ↔ ∀ member ∈ members, member.2.depth ≤ room := by
    rw [depth, Nat.succ_le_succ_iff, depthOfMembers_le_iff]
  refine ⟨fun readable member listed => ⟨fits.1 readable.fits member listed, ?_⟩,
    fun all => ⟨fits.2 fun member listed => (all member listed).fits, ?_⟩⟩
  · exact fun number inside =>
      readable.readsBack number (mem_numbersOfMembers.2 ⟨member, listed, inside⟩)
  · intro number inside
    obtain ⟨member, listed, inside⟩ := mem_numbersOfMembers.1 inside
    exact (all member listed).readsBack number inside

/-- A text is readable. -/
theorem readable_string (value : String) : Readable room (string value) :=
  ⟨Nat.zero_le _, fun _ member => by cases member⟩

/-- A number is readable when it is read back. -/
theorem readable_number_iff {value : Number} : Readable room (number value) ↔ value.ReadsBack :=
  ⟨fun readable => readable.readsBack value (List.mem_singleton.2 rfl),
    fun readsBack => ⟨Nat.zero_le _, fun _ member => List.mem_singleton.1 member ▸ readsBack⟩⟩

/-- An integer is readable. -/
theorem readable_integer (word : WordInt) : Readable room (number (.integer word)) :=
  readable_number_iff.2 (number?_integer word)

end Readable

section Indented

/-- The beginning of a line is space. -/
theorem gap_lineStart (depth : Nat) : Gap (lineStart depth) := by
  intro c member
  rcases List.mem_cons.1 member with rfl | blank
  · rfl
  · rw [(List.mem_replicate.1 blank).2]
    rfl

/-- A blank is space. -/
theorem gap_blank : Gap [' '] := fun c member => by
  rw [List.mem_singleton.1 member]
  rfl

mutual

/-- The indented text of a value spells it. -/
theorem spells_indentedAt {room : Nat} (depth : Nat) :
    (value : Json) → Readable room value → Spells room (indentedAt depth value) value.normal
  | null, _ => .null
  | bool value, _ => .bool value
  | number _, readable => .number (readable_number_iff.1 readable)
  | string value, _ => .string value
  | array elements, readable => by
    obtain ⟨inside, rfl⟩ := Nat.exists_eq_add_of_le' (Nat.one_le_of_lt readable.fits)
    have all := readable_array_iff.1 readable
    cases elements with
    | nil => exact .emptyArray
    | cons element rest =>
      rw [indentedAt, normal]
      exact .array (gap_lineStart _) (spells_indentedElements depth element rest all)
  | object members, readable => by
    obtain ⟨inside, rfl⟩ := Nat.exists_eq_add_of_le' (Nat.one_le_of_lt readable.fits)
    have all := readable_object_iff.1 readable
    cases members with
    | nil => exact .emptyObject
    | cons member rest =>
      rw [indentedAt, normal]
      exact .object (gap_lineStart _) (spells_indentedMembers depth member rest all)

/-- The indented text of elements spells them. -/
theorem spells_indentedElements {room : Nat} (depth : Nat) :
    (element : Json) → (rest : List Json) → (∀ one ∈ element :: rest, Readable room one) →
      SpellsElements room (indentedElements depth (element :: rest))
        (normalElements (element :: rest))
  | element, [], all => by
    rw [indentedElements, List.append_assoc]
    exact .last (spells_indentedAt _ element (all _ List.mem_cons_self)) (gap_lineStart depth)
  | element, next :: rest, all => by
    have shape : indentedElements depth (element :: next :: rest) =
        indentedAt (depth + 1) element ++
          ',' :: (lineStart (depth + 1) ++ indentedElements depth (next :: rest)) := by
      simp [indentedElements]
    rw [shape]
    exact .cons (spells_indentedAt _ element (all _ List.mem_cons_self)) (gap_lineStart _)
      (spells_indentedElements depth next rest fun one member => all one (.tail _ member))

/-- The indented text of members spells them. -/
theorem spells_indentedMembers {room : Nat} (depth : Nat) :
    (member : String × Json) → (rest : List (String × Json)) →
      (∀ one ∈ member :: rest, Readable room one.2) →
      SpellsMembers room (indentedMembers depth (member :: rest)) (normalMembers (member :: rest))
  | (name, value), [], all => by
    have shape : indentedMembers depth [(name, value)] =
        quoted name ++ ':' :: ([' '] ++ (indentedAt (depth + 1) value ++
          (lineStart depth ++ ['\x7d']))) := by simp [indentedMembers]
    rw [shape]
    exact .last gap_blank (spells_indentedAt _ value (all _ List.mem_cons_self))
      (gap_lineStart depth)
  | (name, value), next :: rest, all => by
    have shape : indentedMembers depth ((name, value) :: next :: rest) =
        quoted name ++ ':' :: ([' '] ++ (indentedAt (depth + 1) value ++
          ',' :: (lineStart (depth + 1) ++ indentedMembers depth (next :: rest)))) := by
      simp [indentedMembers]
    rw [shape]
    exact .cons gap_blank (spells_indentedAt _ value (all _ List.mem_cons_self))
      (gap_lineStart _)
      (spells_indentedMembers depth next rest fun one member => all one (.tail _ member))

end

end Indented

section Compact

mutual

/-- The compact text of a value spells it. -/
theorem spells_compact {room : Nat} :
    (value : Json) → Readable room value → Spells room (compact value) value.normal
  | null, _ => .null
  | bool value, _ => .bool value
  | number _, readable => .number (readable_number_iff.1 readable)
  | string value, _ => .string value
  | array elements, readable => by
    obtain ⟨inside, rfl⟩ := Nat.exists_eq_add_of_le' (Nat.one_le_of_lt readable.fits)
    have all := readable_array_iff.1 readable
    cases elements with
    | nil => exact .emptyArray
    | cons element rest => exact .array gap_nil (spells_compactElements element rest all)
  | object members, readable => by
    obtain ⟨inside, rfl⟩ := Nat.exists_eq_add_of_le' (Nat.one_le_of_lt readable.fits)
    have all := readable_object_iff.1 readable
    cases members with
    | nil => exact .emptyObject
    | cons member rest => exact .object gap_nil (spells_compactMembers member rest all)

/-- The compact text of elements spells them. -/
theorem spells_compactElements {room : Nat} :
    (element : Json) → (rest : List Json) → (∀ one ∈ element :: rest, Readable room one) →
      SpellsElements room (compactElements (element :: rest)) (normalElements (element :: rest))
  | element, [], all => .last (spells_compact element (all _ List.mem_cons_self)) gap_nil
  | element, next :: rest, all =>
    .cons (spells_compact element (all _ List.mem_cons_self)) gap_nil
      (spells_compactElements next rest fun one member => all one (.tail _ member))

/-- The compact text of members spells them. -/
theorem spells_compactMembers {room : Nat} :
    (member : String × Json) → (rest : List (String × Json)) →
      (∀ one ∈ member :: rest, Readable room one.2) →
      SpellsMembers room (compactMembers (member :: rest)) (normalMembers (member :: rest))
  | (_, value), [], all =>
    .last gap_nil (spells_compact value (all _ List.mem_cons_self)) gap_nil
  | (_, value), next :: rest, all =>
    .cons gap_nil (spells_compact value (all _ List.mem_cons_self)) gap_nil
      (spells_compactMembers next rest fun one member => all one (.tail _ member))

end

end Compact

/-- A text that spells a value is read as it, with or without space behind it. -/
theorem ofText?_of_spells {text gap : List Char} {value : Json}
    (spelled : Spells mostNested text value) (space : Gap gap) :
    ofText? (String.ofList (text ++ gap)) = some value := by
  have ends : EndsNumeral gap := by
    have := endsNumeral_gap space endsNumeral_nil
    rwa [List.append_nil] at this
  have read : value? (2 * (text ++ gap).length + 2) mostNested (text ++ gap) =
      some (value, gap) := spelled.value? gap_nil ends (by rw [List.length_append]; omega)
  have skipped := skipSpace_gap space []
  rw [List.append_nil] at skipped
  rw [ofText?, String.toList_ofList, read]
  simp only [skipped]
  rfl

/-- The indented text of a value is read as the value, its members by ascending name. -/
theorem ofText?_toIndentedText {value : Json} (readable : Readable mostNested value) :
    ofText? value.toIndentedText = some value.normal := by
  have read := ofText?_of_spells (spells_indentedAt 0 value readable) gap_nil
  rwa [List.append_nil] at read

/-- So is the compact text. -/
theorem ofText?_toCompactText {value : Json} (readable : Readable mostNested value) :
    ofText? value.toCompactText = some value.normal := by
  have read := ofText?_of_spells (spells_compact value readable) gap_nil
  rwa [List.append_nil] at read

end Json

end PredictionMarket
