import PredictionMarket.Proofs.Json.Printing
import PredictionMarket.Proofs.Template.Layout

/-!
# Reading records that were written

A record is written as the fields that have a value. The parser lists the members of an object
by ascending name, so a record is read either as it was written or in that arrangement; a
reader does not tell the two apart. In both a field is found with its value, arranged in the
same way, and a record is read back field by field.
-/

namespace PredictionMarket

open Datum

/-- The members of a record: the fields that have a value. -/
def written (fields : List (String × Option Json)) : List (String × Json) :=
  fields.filterMap fun field => field.2.map fun value => (field.1, value)

section Distinct

variable {members : List (String × Json)} {name : String}

/-- The members that have a name, one by one. -/
theorem membersNamed_cons (name : String) (member : String × Json)
    (rest : List (String × Json)) :
    membersNamed name (member :: rest) =
      if name = member.1 then member :: membersNamed name rest else membersNamed name rest := by
  by_cases here : name = member.1
  · simp [membersNamed, here]
  · simp [membersNamed, here, Ne.symm here]

/-- A name that is not listed has no members. -/
theorem membersNamed_of_not_mem (unknown : name ∉ members.map (·.1)) :
    membersNamed name members = [] := by
  refine List.filter_eq_nil_iff.2 fun member listed same => unknown ?_
  exact List.mem_map.2 ⟨member, listed, beq_iff_eq.1 same⟩

/-- When no name is listed twice, the members that have a name are what is found under it. -/
theorem membersNamed_of_distinct (distinct : (members.map (·.1)).Nodup) :
    membersNamed name members =
      (Dict.lookupEntry name members).toList.map fun value => (name, value) := by
  induction members with
  | nil => rfl
  | cons member rest inductionHypothesis =>
    obtain ⟨fresh, restDistinct⟩ := List.nodup_cons.1 distinct
    rw [membersNamed_cons, Dict.lookupEntry]
    split
    · next here => rw [here, membersNamed_of_not_mem fresh, Option.toList_some, List.map_singleton]
    · exact inductionHypothesis restDistinct

/-- When no name is listed twice, a field is what is found under its name. -/
theorem field_of_distinct (distinct : (members.map (·.1)).Nodup) (name : String) :
    field members name = some (Dict.lookupEntry name members) := by
  rw [field_eq, membersNamed_of_distinct distinct]
  cases Dict.lookupEntry name members <;> rfl

end Distinct

section Written

variable {fields : List (String × Option Json)}

/-- The names of the members are names of fields, in their order. -/
theorem names_written_sublist (fields : List (String × Option Json)) :
    ((written fields).map (·.1)).Sublist (fields.map (·.1)) := by
  induction fields with
  | nil => exact .slnil
  | cons field rest inductionHypothesis =>
    obtain ⟨name, value⟩ := field
    cases value with
    | none => exact inductionHypothesis.cons name
    | some value => exact inductionHypothesis.cons_cons name

/-- What is found under the name of a field is its value. -/
theorem lookupEntry_written (distinct : (fields.map (·.1)).Nodup) :
    ∀ field ∈ fields, Dict.lookupEntry field.1 (written fields) = field.2 := by
  induction fields with
  | nil => exact fun _ listed => by cases listed
  | cons first rest inductionHypothesis =>
    obtain ⟨name, value⟩ := first
    obtain ⟨fresh, restDistinct⟩ := List.nodup_cons.1 distinct
    intro field listed
    rcases List.mem_cons.1 listed with rfl | later
    · cases value with
      | none =>
        refine Option.not_isSome_iff_eq_none.1 fun found => fresh ?_
        exact (names_written_sublist rest).subset (Dict.isSome_lookupEntry.1 found)
      | some value => exact if_pos rfl
    · have different : field.1 ≠ name := fun same =>
        fresh (List.mem_map.2 ⟨field, later, same⟩)
      have found := inductionHypothesis restDistinct field later
      cases value with
      | none => exact found
      | some value => exact (if_neg different).trans found

/-- The members of a record, field by field. -/
theorem written_cons (field : String × Option Json) (rest : List (String × Option Json)) :
    written (field :: rest) =
      (field.2.toList.map fun value => (field.1, value)) ++ written rest := by
  obtain ⟨name, value⟩ := field
  cases value <;> rfl

/-- A member that is written only if there is a value. -/
theorem memberOf_eq {α : Type} (name : String) (value : Option α) (write : α → Json) :
    Json.memberOf name value write = (value.map write).toList.map fun value => (name, value) := by
  cases value <;> rfl

/-- Members that are the values of fields, each allowed by its rule, are settled as these. -/
theorem settled_of_membersNamed {layout : Layout} {members : List (String × Json)}
    (allowed : List.Forall₂ (fun rule field => rule.1 = field.1 ∧ rule.2.Allows field.2)
      layout fields)
    (named : ∀ field ∈ fields, membersNamed field.1 members =
      field.2.toList.map fun value => (field.1, value)) :
    layout.settled members = written fields := by
  induction allowed with
  | nil => rfl
  | @cons labelled field rules others both _ inductionHypothesis =>
    obtain ⟨name, rule⟩ := labelled
    obtain ⟨rfl, allowed⟩ := both
    obtain ⟨first, later⟩ := List.forall_mem_cons.1 named
    rw [written_cons, ← inductionHypothesis later, ← FieldRule.settle_of_allows allowed first]
    rfl

/-- A record whose fields have values that the rules allow is settled. -/
theorem settled_written {layout : Layout} (distinct : layout.Distinct)
    (allowed : List.Forall₂ (fun rule field => rule.1 = field.1 ∧ rule.2.Allows field.2)
      layout fields) : layout.settled (written fields) = written fields := by
  have sameNames : layout.map (·.1) = fields.map (·.1) := by
    clear distinct
    induction allowed with
    | nil => rfl
    | cons both _ inductionHypothesis =>
      rw [List.map_cons, List.map_cons, both.1, inductionHypothesis]
  have fieldsDistinct : (fields.map (·.1)).Nodup := sameNames ▸ distinct
  refine settled_of_membersNamed allowed fun field listed => ?_
  rw [membersNamed_of_distinct (fieldsDistinct.sublist (names_written_sublist fields)),
    lookupEntry_written fieldsDistinct field listed]

end Written

/-- A way to arrange the members of all objects in a value. -/
structure Arrangement where
  apply : Json → Json
  null : apply .null = .null
  bool : ∀ value, apply (.bool value) = .bool value
  number : ∀ value, apply (.number value) = .number value
  string : ∀ value, apply (.string value) = .string value
  array : ∀ elements, apply (.array elements) = .array (elements.map apply)
  /-- Under each of different names the value stays that was there. -/
  object : ∀ members : List (String × Json), (members.map (·.1)).Nodup →
    ∃ arranged : List (String × Json), apply (.object members) = .object arranged ∧
      (arranged.map (·.1)).Nodup ∧
      ∀ name, Dict.lookupEntry name arranged = (Dict.lookupEntry name members).map apply
  /-- Members that are listed by ascending name stay where they are. -/
  dict : ∀ members : Dict Json, apply (.ofDict members) = .ofDict (members.map apply)
  /-- When an object stays as it is, so do the values in it. -/
  inside : ∀ members : List (String × Json), apply (.object members) = .object members →
    ∀ member ∈ members, apply member.2 = member.2

namespace Arrangement

/-- Every member where it was written. -/
def asWritten : Arrangement where
  apply := id
  null := rfl
  bool _ := rfl
  number _ := rfl
  string _ := rfl
  array elements := by rw [List.map_id, id]
  object members distinct := ⟨members, rfl, distinct, fun name => Option.map_id'.symm⟩
  dict members := congrArg Json.object (List.map_id' _).symm
  inside _ _ _ _ := rfl

/-- The members by ascending name. -/
def byName : Arrangement where
  apply := Json.normal
  null := rfl
  bool _ := rfl
  number _ := rfl
  string _ := rfl
  array elements := by rw [Json.normal, Json.normalElements_eq]
  object members distinct := by
    have names : (members.map fun member => (member.1, member.2.normal)).map (·.1) =
        members.map (·.1) := by
      rw [List.map_map]
      rfl
    refine ⟨_, by rw [Json.normal, Json.normalMembers_eq]; rfl, Dict.nodup_keys _, fun name => ?_⟩
    have found := Dict.find?_ofList (members.map fun member => (member.1, member.2.normal)) name
    rw [Dict.lookupEntry_reverse (names ▸ distinct)] at found
    exact found.trans (Dict.lookupEntry_map Json.normal members name)
  dict members := by
    have ascending : (members.map Json.normal).entries.Pairwise
        fun left right => left.1 < right.1 := (members.map Json.normal).ascending
    rw [Json.ofDict, Json.normal, Json.normalMembers_eq, Json.ofMembers, Json.ofDict]
    exact congrArg Json.object (Dict.entries_ofList ascending)
  inside members kept := by
    rw [Json.normal, Json.normalMembers_eq] at kept
    have kept : (Dict.ofList (members.map fun member => (member.1, member.2.normal))).entries =
        members := Json.object.inj kept
    have ascending : members.Pairwise fun left right => left.1 < right.1 :=
      kept ▸ (Dict.ofList (members.map fun member => (member.1, member.2.normal))).ascending
    have listed : (Dict.ofList (members.map fun member => (member.1, member.2.normal))).entries =
        members.map fun member => (member.1, member.2.normal) :=
      Dict.entries_ofList (List.pairwise_map.2 ascending)
    have same := (listed.symm.trans kept).trans (List.map_id _).symm
    exact fun member isMember => congrArg Prod.snd (List.map_inj_left.1 same member isMember)

variable (arrangement : Arrangement)

/-- The value that a reader finds in a field that may be absent: `null` says that it is. -/
def given (value : Option Json) : Option Json :=
  (value.map arrangement.apply).filter fun value => !value.isNull

/-- When a list stays as it is, so do its elements. -/
theorem kept_of_mem {elements : List Json} {element : Json}
    (kept : arrangement.apply (.array elements) = .array elements) (listed : element ∈ elements) :
    arrangement.apply element = element := by
  rw [arrangement.array] at kept
  exact List.map_inj_left.1 ((Json.array.inj kept).trans (List.map_id _).symm) element listed

/-- A number of 32 bits is not arranged. -/
theorem ofUInt32 (n : UInt32) : arrangement.apply (.ofUInt32 n) = .ofUInt32 n :=
  arrangement.number _

/-- A byte is not arranged. -/
theorem ofUInt8 (n : UInt8) : arrangement.apply (.ofUInt8 n) = .ofUInt8 n :=
  arrangement.number _

/-- A dictionary of texts is in order already. -/
theorem ofTexts (texts : Dict String) : arrangement.apply (.ofTexts texts) = .ofTexts texts := by
  have same : (texts.map Json.string).map arrangement.apply = texts.map Json.string := by
    refine Dict.ext ((List.map_map).trans (List.map_congr_left fun entry _ => ?_))
    exact congrArg (entry.1, ·) (arrangement.string entry.2)
  rw [Json.ofTexts, arrangement.dict, same]

/-- A record that was written is an object in which each field has its value. -/
theorem exists_members (fields : List (String × Option Json))
    (distinct : (fields.map (·.1)).Nodup) :
    ∃ members, arrangement.apply (.object (written fields)) = .object members ∧
      ∀ field ∈ fields, Datum.field members field.1 = some (field.2.map arrangement.apply) := by
  have writtenDistinct := distinct.sublist (names_written_sublist fields)
  obtain ⟨members, shape, membersDistinct, found⟩ := arrangement.object _ writtenDistinct
  refine ⟨members, shape, fun field listed => ?_⟩
  rw [field_of_distinct membersDistinct, found, lookupEntry_written distinct field listed]

end Arrangement

section Values

/-- A text is read as itself. -/
@[simp] theorem text_string (value : String) : text (Json.string value) = some value := rfl

/-- A truth value is read as itself. -/
@[simp] theorem truth_bool (value : Bool) : truth (Json.bool value) = some value := rfl

/-- An object has its members, whatever the fields of the record are. -/
@[simp] theorem record_object (fields : List String) (members : List (String × Json)) :
    Datum.record fields (Json.object members) = some members := rfl

/-- A number of 32 bits is read back. -/
@[simp] theorem word_ofUInt32 (n : UInt32) : word (Json.ofUInt32 n) = some n := by
  have natural : Datum.natural (Json.ofUInt32 n) = some n.toNat :=
    if_pos (Int.natCast_nonneg n.toNat)
  have small := n.toNat_lt
  unfold word
  rw [natural]
  simp [small]

/-- A byte is read back. -/
@[simp] theorem byte_ofUInt8 (n : UInt8) : byte (Json.ofUInt8 n) = some n := by
  have natural : Datum.natural (Json.ofUInt8 n) = some n.toNat :=
    if_pos (Int.natCast_nonneg n.toNat)
  have small := n.toNat_lt
  unfold byte
  rw [natural]
  simp [small]

end Values

section Reading

variable {α β : Type} {read : Json → Option α} {members : List (String × Json)} {name : String}

/-- A field that is there is read. -/
theorem requiredField_of {value : Json} (found : field members name = some (some value)) :
    requiredField read members name = read value := by
  unfold requiredField
  rw [found]
  rfl

/-- A field that is there is read, and its default does not matter. -/
theorem defaultedField_of {default : α} {value : Json}
    (found : field members name = some (some value)) :
    defaultedField read default members name = read value := by
  unfold defaultedField
  rw [found]
  rfl

/-- The default of a field is read when the field is not there. -/
theorem defaultedField_of_none {default : α} (found : field (ν := Json) members name = some none) :
    defaultedField read default members name = some default := by
  unfold defaultedField
  rw [found]
  rfl

/-- Any value is read from a field that may be absent, unless it is `null`. -/
theorem optionalField_json {value : Option Json} (found : field members name = some value) :
    optionalField json members name = some (value.filter fun value => !value.isNull) := by
  unfold optionalField
  rw [found]
  cases value with
  | none => rfl
  | some value => cases value <;> rfl

/-- A value that was written to a field that may be absent is read. -/
theorem optionalField_of {value : Option α} {write : α → Json}
    (found : field members name = some (value.map write))
    (back : ∀ x ∈ value, read (write x) = some x ∧ (write x).isNull = false) :
    optionalField read members name = some value := by
  unfold optionalField
  rw [found]
  cases value with
  | none => rfl
  | some x =>
    obtain ⟨isRead, notNull⟩ := back x rfl
    have isPresent : present (write x) = some (some (write x)) := by
      cases shape : write x with
      | null =>
        rw [shape] at notNull
        cases notNull
      | _ => rfl
    simp only [Option.map_some, Option.bind_eq_bind, Option.bind_some, isPresent, isRead]
    rfl

/-- What was written one by one is read one by one. -/
theorem mapM_map {γ : Type} {convert : γ → Option α} {write : β → γ} {result : β → α}
    {elements : List β} (back : ∀ x ∈ elements, convert (write x) = some (result x)) :
    (elements.map write).mapM convert = some (elements.map result) := by
  induction elements with
  | nil => rfl
  | cons first rest inductionHypothesis =>
    obtain ⟨isFirst, isRest⟩ := List.forall_mem_cons.1 back
    rw [List.map_cons, List.mapM_cons, isFirst, inductionHypothesis isRest]
    rfl

/-- A list that was written is read element by element. -/
theorem list_map {write : β → Json} {result : β → α} {elements : List β}
    (back : ∀ x ∈ elements, read (write x) = some (result x)) :
    list read (.array (elements.map write)) = some (elements.map result) :=
  mapM_map back

/-- A dictionary that was written is read entry by entry. -/
theorem dict_map {write : β → Json} {result : β → α} {entries : Dict β}
    (back : ∀ entry ∈ entries.entries, read (write entry.2) = some (result entry.2)) :
    dict read (.ofDict (entries.map write)) = some (entries.map result) := by
  have all : (entries.map write).entries.mapM
      (fun member => do return (member.1, ← read member.2)) =
        some (entries.map result).entries :=
    mapM_map fun entry listed => by rw [back entry listed]; rfl
  exact (congrArg (Option.bind · fun entries => some (Dict.ofList entries)) all).trans
    (congrArg some (Dict.ofList_entries _))

/-- A dictionary of texts that was written is read. -/
theorem dict_ofTexts (texts : Dict String) : dict text (Json.ofTexts texts) = some texts := by
  have back : dict text (Json.ofTexts texts) = some (texts.map id) := dict_map fun _ _ => rfl
  rw [back]
  exact congrArg some (Dict.ext (List.map_id' _))

variable (arrangement : Arrangement)

/-- A text that was written to a field that may be absent is read. -/
theorem optionalField_text {value : Option String}
    (found : field members name = some (value.map (arrangement.apply ∘ .string))) :
    optionalField text members name = some value :=
  optionalField_of found fun x _ => by
    rw [Function.comp, arrangement.string]
    exact ⟨rfl, rfl⟩

/-- So is a number of 32 bits. -/
theorem optionalField_word {value : Option UInt32}
    (found : field members name = some (value.map (arrangement.apply ∘ .ofUInt32))) :
    optionalField word members name = some value :=
  optionalField_of found fun x _ => by
    rw [Function.comp, arrangement.ofUInt32]
    exact ⟨word_ofUInt32 x, rfl⟩

/-- So is a dictionary of texts. -/
theorem optionalField_texts {value : Option (Dict String)}
    (found : field members name = some (value.map (arrangement.apply ∘ .ofTexts))) :
    optionalField (dict text) members name = some value :=
  optionalField_of found fun texts _ => by
    rw [Function.comp, arrangement.ofTexts]
    exact ⟨dict_ofTexts texts, rfl⟩

/-- A list of records that was written is read record by record. -/
theorem list_apply {write : β → Json} {result : β → α} {elements : List β}
    (back : ∀ x ∈ elements, read (arrangement.apply (write x)) = some (result x)) :
    list read (arrangement.apply (.array (elements.map write))) =
      some (elements.map result) := by
  rw [arrangement.array, List.map_map]
  exact list_map back

end Reading

end PredictionMarket
