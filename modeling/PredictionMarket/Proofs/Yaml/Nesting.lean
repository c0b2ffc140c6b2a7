import PredictionMarket.Proofs.Json.Printing
import PredictionMarket.Proofs.Template.Origin
import PredictionMarket.Yaml.Value

/-!
# How deep YAML values are

Each collection that is read takes one off the room that is left, whatever aliases were followed
on the way. So a JSON value that is read of a node has no more containers inside one another
than there was room for (`InRoom`), and its objects list their members by ascending name.
-/

namespace PredictionMarket

open Returning

/-- A value has so much room, and its objects list their members by ascending name. -/
structure Json.InRoom (room : Nat) (value : Json) : Prop where
  fits : value.depth ≤ room
  inOrder : value.normal = value

namespace Json

variable {room : Nat}

/-- A value that is neither a list nor an object. -/
def IsScalar : Json → Prop
  | array _ | object _ => False
  | _ => True

/-- Such a value needs no room. -/
theorem IsScalar.inRoom {value : Json} (isScalar : value.IsScalar) : InRoom room value := by
  cases value with
  | array => cases isScalar
  | object => cases isScalar
  | _ => exact ⟨Nat.zero_le _, rfl⟩

/-- A list of values with room has room itself. -/
theorem inRoom_array {elements : List Json} (all : ∀ element ∈ elements, InRoom room element) :
    InRoom (room + 1) (array elements) where
  fits := by
    rw [depth, Nat.succ_le_succ_iff, depthOfElements_le_iff]
    exact fun element listed => (all element listed).fits
  inOrder := normal_array fun element listed => (all element listed).inOrder

/-- So has an object whose values do. -/
theorem inRoom_ofMembers {members : List (String × Json)}
    (all : ∀ member ∈ members, InRoom room member.2) : InRoom (room + 1) (ofMembers members) where
  fits := by
    rw [ofMembers, depth, Nat.succ_le_succ_iff, depthOfMembers_le_iff]
    exact fun member listed => (all member (Dict.mem_of_mem_ofList listed)).fits
  inOrder := normal_ofMembers fun member listed => (all member listed).inOrder

end Json

namespace Yaml

variable {α : Type} {result : α}

/-- A reading returns what it may return, however many aliases may be followed. -/
instance : Returning Reading where
  Returns computed result := ∃ allowed left, StateT.run computed allowed = some (result, left)
  eq_of_pure := by
    rintro α value result ⟨allowed, left, same⟩
    exact (congrArg Prod.fst (Option.some.inj same)).symm
  exists_of_bind := by
    rintro α β first next result ⟨allowed, left, returned⟩
    rw [StateT.run_bind] at returned
    obtain ⟨⟨value, between⟩, isFirst, isNext⟩ := Option.bind_eq_some_iff.1 returned
    exact ⟨value, ⟨allowed, between, isFirst⟩, between, left, isNext⟩

/-- A failure returns nothing. -/
theorem not_returns_failure : ¬ Returns (failure : Reading α) result := by
  rintro ⟨allowed, left, returned⟩
  cases returned

/-- A value that may be missing is returned if it is there. -/
theorem eq_some_of_getM {value? : Option α} (returned : Returns (value?.getM : Reading α) result) :
    value? = some result := by
  cases value? with
  | none => exact absurd returned not_returns_failure
  | some value => rw [eq_of_pure returned]

/-- A reading that is left with a choice of two continues with the one that does not fail. -/
theorem of_ite_failure {refused : Prop} [Decidable refused] {next : Reading α}
    (returned : Returns (if refused then failure else next) result) : Returns next result := by
  split at returned
  · exact absurd returned not_returns_failure
  · exact returned

section Scalars

variable {text : String} {value : Json}

/-- The JSON value of an integer is no container. -/
theorem isScalar_of_jsonInteger? {n : Int} (found : jsonInteger? n = some value) :
    value.IsScalar := by
  obtain ⟨word, -, rfl⟩ := Option.map_eq_some_iff.1 found
  trivial

/-- Neither is what a plain scalar denotes. -/
theorem isScalar_of_jsonPlain? (found : jsonPlain? text = some value) : value.IsScalar := by
  unfold jsonPlain? at found
  split at found
  case h_4 => exact isScalar_of_jsonInteger? found
  all_goals
    cases found
    trivial

/-- Neither is what a scalar with a tag stands for. -/
theorem isScalar_of_jsonTagged? {tag : Octets} {spelling : Spelling}
    (found : jsonTagged? tag text spelling = some value) : value.IsScalar := by
  unfold jsonTagged? at found
  dsimp only at found
  split_ifs at found
  -- nothing
  · cases found
    trivial
  -- a truth value
  · obtain ⟨truth, -, rfl⟩ := Option.map_eq_some_iff.1 found
    trivial
  -- an integer
  · obtain ⟨n, -, isInteger⟩ := Option.bind_eq_some_iff.1 found
    exact isScalar_of_jsonInteger? isInteger
  -- a number, or none
  · cases found
    trivial
  · obtain ⟨number, -, rfl⟩ := Option.map_eq_some_iff.1 found
    trivial
  -- what the text denotes, or the text
  · exact isScalar_of_jsonPlain? found
  · cases found
    trivial

/-- Neither is what any scalar stands for. -/
theorem isScalar_of_jsonScalar? {properties : Properties} {spelling : Spelling}
    (found : jsonScalar? properties text spelling = some value) : value.IsScalar := by
  unfold jsonScalar? at found
  split at found
  · cases found
  · split at found
    · exact isScalar_of_jsonTagged? found
    · exact isScalar_of_jsonPlain? found
    · cases found
      trivial

end Scalars

/-- A JSON value that is read of a node has the room that there was. -/
theorem inRoom_of_json (document : Document) {room : Nat} {node : Node} {value : Json}
    (returned : Returns (document.json room node) value) : value.InRoom room := by
  induction room generalizing node value with
  | zero =>
    rw [Document.json] at returned
    obtain ⟨target, -, returned⟩ := exists_of_bind returned
    cases target with
    | scalar properties text spelling =>
      exact (isScalar_of_jsonScalar? (eq_some_of_getM returned)).inRoom
    | _ => exact absurd returned not_returns_failure
  | succ room inductionHypothesis =>
    rw [Document.json] at returned
    obtain ⟨target, -, returned⟩ := exists_of_bind returned
    cases target with
    | scalar properties text spelling =>
      exact (isScalar_of_jsonScalar? (eq_some_of_getM returned)).inRoom
    | sequence properties nodes =>
      obtain ⟨elements, areElements, returned⟩ := exists_of_bind (of_ite_failure returned)
      cases eq_of_pure returned
      refine Json.inRoom_array fun element listed => ?_
      obtain ⟨node, -, isElement⟩ := exists_of_mapM areElements element listed
      exact inductionHypothesis isElement
    | mapping properties nodes =>
      obtain ⟨members, areMembers, returned⟩ := exists_of_bind (of_ite_failure returned)
      cases eq_of_pure returned
      refine Json.inRoom_ofMembers fun member listed => ?_
      obtain ⟨⟨key, node⟩, -, isMember⟩ := exists_of_mapM areMembers member listed
      obtain ⟨name, -, isMember⟩ := exists_of_bind isMember
      obtain ⟨value, isValue, isMember⟩ := exists_of_bind isMember
      cases eq_of_pure isMember
      exact inductionHypothesis isValue
    | reference number => exact absurd returned not_returns_failure

namespace Value

variable {depth : Nat} {value : Value}

/-- An alias is followed with the room that there was. -/
theorem room_of_followed {target : Value} (returned : Returns value.followed target) :
    target.room = value.room := by
  obtain ⟨node, -, returned⟩ := exists_of_bind returned
  rw [eq_of_pure returned]

/-- Inside a collection one collection less has room. -/
theorem room_of_roomInside {room : Nat} (same : value.room = depth + 1)
    (returned : Returns value.roomInside room) : room = depth := by
  unfold roomInside at returned
  rw [same] at returned
  exact eq_of_pure returned

/-- The members of a mapping have one off the room of the mapping. -/
theorem room_of_members {found : List (String × Value)} (same : value.room = depth + 1)
    (returned : Returns value.members found) : ∀ member ∈ found, member.2.room = depth := by
  obtain ⟨target, isTarget, returned⟩ := exists_of_bind returned
  have targetRoom := (room_of_followed isTarget).trans same
  split at returned
  · obtain ⟨room, isRoom, returned⟩ := exists_of_bind returned
    intro member listed
    obtain ⟨⟨key, node⟩, -, isMember⟩ := exists_of_mapM returned member listed
    obtain ⟨name, -, isMember⟩ := exists_of_bind isMember
    cases eq_of_pure isMember
    exact room_of_roomInside targetRoom isRoom
  · split at returned
    · cases eq_of_pure returned
      exact fun member listed => by cases listed
    · exact absurd returned not_returns_failure
  · exact absurd returned not_returns_failure

/-- So have the elements of a sequence. -/
theorem room_of_elements {found : List Value} (same : value.room = depth + 1)
    (returned : Returns value.elements found) : ∀ element ∈ found, element.room = depth := by
  obtain ⟨target, isTarget, returned⟩ := exists_of_bind returned
  have targetRoom := (room_of_followed isTarget).trans same
  split at returned
  · obtain ⟨room, isRoom, returned⟩ := exists_of_bind returned
    cases eq_of_pure returned
    intro element listed
    obtain ⟨node, -, rfl⟩ := List.mem_map.1 listed
    exact room_of_roomInside targetRoom isRoom
  · split at returned
    · cases eq_of_pure returned
      exact fun element listed => by cases listed
    · exact absurd returned not_returns_failure
  · exact absurd returned not_returns_failure

/-- A value that is present has the room of the value that says so. -/
theorem room_of_present {shown : Value} (returned : Returns value.present (some shown)) :
    shown.room = value.room := by
  obtain ⟨target, isTarget, returned⟩ := exists_of_bind returned
  rw [← room_of_followed isTarget]
  split at returned
  · obtain ⟨absent, -, returned⟩ := exists_of_bind returned
    split at returned
    · cases eq_of_pure returned
    · rw [Option.some.inj (eq_of_pure returned)]
  · rw [Option.some.inj (eq_of_pure returned)]

/-- The room of a value goes down with the depth in its document, and what is read as JSON has
that much room. -/
theorem nesting : Nesting (fun depth (value : Value) => value.room = depth) Json.InRoom where
  members := room_of_members
  record := room_of_members
  elements := room_of_elements
  json {_ _ shown _} same isPresent isRead :=
    same ▸ room_of_present isPresent ▸ inRoom_of_json shown.document isRead
  refuse := not_returns_failure

end Value

end Yaml

end PredictionMarket
