import PredictionMarket.Proofs.Dictionary
import PredictionMarket.Template.Codec

/-!
# Layouts of records

A layout lists the fields of a record with the rule for each: a field must be there, or may be
absent, or has a default that is written out, or is a list that is left out when it is empty.
Two things about a record follow from its layout: a reader sees no more of an object than the
settled one, in which unknown fields are dropped and absence is said in one way (`settled`), and
what a writer writes is settled already.
-/

namespace PredictionMarket

open Datum

/-- What it means that a field is not given. -/
inductive FieldRule where
  /-- The record is refused. -/
  | required
  /-- The value is absent, as it is with `null`. -/
  | optional
  /-- A default is meant, which is written out. -/
  | defaulted (value : Json)
  /-- No elements are meant, as with an empty list. -/
  | listed

/-- The fields of a record, in the order in which they are written. -/
abbrev Layout := List (String × FieldRule)

/-- The members of an object that have a name. -/
def membersNamed (name : String) (members : List (String × Json)) : List (String × Json) :=
  members.filter fun member => member.1 == name

namespace FieldRule

/-- The members for one field, with the one way to say that nothing is given. -/
def settle (rule : FieldRule) (name : String) (members : List (String × Json)) :
    List (String × Json) :=
  match rule, membersNamed name members with
  | optional, [(_, .null)] => []
  | defaulted value, [] => [(name, value)]
  | listed, [(_, .array [])] => []
  | _, given => given

/-- Which values a writer gives to a field. -/
def Allows : FieldRule → Option Json → Prop
  | required, value => value.isSome = true
  | optional, value => value ≠ some .null
  | defaulted _, value => value.isSome = true
  | listed, value => value ≠ some (.array [])

variable {rule : FieldRule} {name other : String} {members : List (String × Json)}

/-- The members for a field have its name. -/
theorem fst_eq_of_mem_settle {member : String × Json}
    (settled : member ∈ rule.settle name members) : member.1 = name := by
  have named : ∀ member ∈ membersNamed name members, member.1 = name := fun member given =>
    beq_iff_eq.1 (List.mem_filter.1 given).2
  unfold settle at settled
  split at settled
  · cases settled
  · rw [List.mem_singleton.1 settled]
  · cases settled
  · exact named member settled

/-- The members for a field are found under its name alone. -/
theorem membersNamed_settle (rule : FieldRule) (name other : String)
    (members : List (String × Json)) :
    membersNamed other (rule.settle name members) =
      if name = other then rule.settle name members else [] := by
  split
  · next same =>
    refine List.filter_eq_self.2 fun member settled => ?_
    rw [fst_eq_of_mem_settle settled]
    exact beq_iff_eq.2 same
  · next different =>
    refine List.filter_eq_nil_iff.2 fun member settled => ?_
    rw [fst_eq_of_mem_settle settled, beq_iff_eq]
    exact different

/-- A value that a writer gives to a field is settled. -/
theorem settle_of_allows {value : Option Json} (allowed : rule.Allows value)
    (given : membersNamed name members = value.toList.map fun value => (name, value)) :
    rule.settle name members = value.toList.map fun value => (name, value) := by
  have single : ∀ {written : Json} {label : String},
      (value.toList.map fun value => (name, value)) = [(label, written)] →
        value = some written := by
    intro written label same
    cases value with
    | none => cases same
    | some value =>
      cases same
      rfl
  have absent : (value.toList.map fun value => (name, value)) = [] → value = none := by
    intro same
    cases value with
    | none => rfl
    | some value => cases same
  unfold settle
  rw [given]
  split
  · next same => exact absurd (single same) allowed
  · next same =>
    rw [absent same] at allowed
    cases allowed
  · next same => exact absurd (single same) allowed
  · rfl

end FieldRule

namespace Layout

variable {layout : Layout} {members : List (String × Json)}

/-- The members that a record is read from, in the order of the layout: unknown fields are
dropped, and what is not given is said in one way. -/
def settled (layout : Layout) (members : List (String × Json)) : List (String × Json) :=
  layout.flatMap fun field => field.2.settle field.1 members

/-- No field is listed twice. -/
def Distinct (layout : Layout) : Prop := (layout.map (·.1)).Nodup

instance (layout : Layout) : Decidable layout.Distinct :=
  inferInstanceAs (Decidable (List.Nodup _))

/-- What the settled members have under a name, field by field. -/
theorem membersNamed_settled_cons (first : String × FieldRule) (rest : Layout) (name : String)
    (members : List (String × Json)) :
    membersNamed name (settled (first :: rest) members) =
      (if first.1 = name then first.2.settle first.1 members else []) ++
        membersNamed name (settled rest members) := by
  rw [← FieldRule.membersNamed_settle, settled, List.flatMap_cons]
  exact List.filter_append _ _

/-- Nothing is settled under a name that is not listed. -/
theorem membersNamed_settled_of_not_mem {name : String} (unknown : name ∉ layout.map (·.1))
    (members : List (String × Json)) : membersNamed name (layout.settled members) = [] := by
  induction layout with
  | nil => rfl
  | cons first rest inductionHypothesis =>
    rw [List.map_cons, List.mem_cons, not_or] at unknown
    rw [membersNamed_settled_cons, if_neg (Ne.symm unknown.1), inductionHypothesis unknown.2]
    rfl

/-- In settled members the members for a field are those that its rule settles. -/
theorem membersNamed_settled (distinct : layout.Distinct) (members : List (String × Json)) :
    ∀ field ∈ layout, membersNamed field.1 (layout.settled members) =
      field.2.settle field.1 members := by
  induction layout with
  | nil => exact fun _ listed => by cases listed
  | cons first rest inductionHypothesis =>
    obtain ⟨firstFresh, restDistinct⟩ := List.nodup_cons.1 distinct
    intro field listed
    rw [membersNamed_settled_cons]
    rcases List.mem_cons.1 listed with rfl | later
    · rw [if_pos rfl, membersNamed_settled_of_not_mem firstFresh, List.append_nil]
    · have different : first.1 ≠ field.1 := fun same =>
        firstFresh (List.mem_map.2 ⟨field, later, same.symm⟩)
      rw [if_neg different, inductionHypothesis restDistinct field later, List.nil_append]

end Layout

section Reading

variable {α : Type} {read : Json → Option α} {name : String} {left right : List (String × Json)}

/-- A field is read from the members that have its name. -/
theorem field_eq (members : List (String × Json)) (name : String) :
    field members name =
      match membersNamed name members with
      | [] => some none
      | [member] => some (some member.2)
      | _ => none := by
  have given : (members.filter fun member => member.1 == name) = membersNamed name members := rfl
  unfold field
  rw [given]
  rcases membersNamed name members with _ | ⟨member, _ | ⟨second, rest⟩⟩ <;> rfl

/-- A field that must be there is read from settled members as from the members themselves. -/
theorem requiredField_settle
    (same : membersNamed name left = FieldRule.required.settle name right) :
    requiredField read left name = requiredField read right name := by
  have given : FieldRule.required.settle name right = membersNamed name right := by
    unfold FieldRule.settle
    rcases membersNamed name right with _ | ⟨member, _ | ⟨second, rest⟩⟩ <;> rfl
  unfold requiredField
  rw [field_eq, field_eq, same, given]

/-- A field that may be absent is read from settled members as from the members themselves. -/
theorem optionalField_settle
    (same : membersNamed name left = FieldRule.optional.settle name right) :
    optionalField read left name = optionalField read right name := by
  unfold optionalField
  rw [field_eq, field_eq, same]
  unfold FieldRule.settle
  rcases membersNamed name right with _ | ⟨⟨label, value⟩, _ | ⟨second, rest⟩⟩
  · rfl
  · cases value <;> rfl
  · cases value <;> rfl

/-- A field with a default is read from settled members as from the members themselves. -/
theorem defaultedField_settle {default : α} {value : Json} (isDefault : read value = some default)
    (same : membersNamed name left = (FieldRule.defaulted value).settle name right) :
    defaultedField read default left name = defaultedField read default right name := by
  unfold defaultedField
  rw [field_eq, field_eq, same]
  unfold FieldRule.settle
  rcases membersNamed name right with _ | ⟨member, _ | ⟨second, rest⟩⟩
  · exact isDefault
  · rfl
  · rfl

/-- A list that may be left out is read from settled members as from the members themselves. -/
theorem listedField_settle
    (same : membersNamed name left = FieldRule.listed.settle name right) :
    defaultedField (list read) [] left name = defaultedField (list read) [] right name := by
  unfold defaultedField
  rw [field_eq, field_eq, same]
  unfold FieldRule.settle
  rcases membersNamed name right with _ | ⟨⟨label, value⟩, _ | ⟨second, rest⟩⟩
  · rfl
  · cases value with
    | array elements => cases elements <;> rfl
    | _ => rfl
  · cases value with
    | array elements => cases elements <;> rfl
    | _ => rfl

end Reading

end PredictionMarket
