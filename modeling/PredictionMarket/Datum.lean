import PredictionMarket.Json.Basic

/-!
# Reading records

Records are read from JSON values and from YAML nodes alike. What the two have in common
is a handful of views, each of which says what a value is when a certain kind of value is
wanted there. Readers of records are written over the views, in whatever effect the views
have; reading from a JSON value has no effect but to fail.

Fields that a record does not have are passed over without a look at their values, and a
field that a record has must not be given twice.
-/

namespace PredictionMarket

/-- Values from which records can be read, with the effect `μ` of reading. -/
class Datum (ν : Type) (μ : outParam (Type → Type)) where
  /-- The text, where a text is wanted. -/
  text : ν → μ String
  /-- The truth value, where one is wanted. -/
  truth : ν → μ Bool
  /-- The natural number, where one is wanted. -/
  natural : ν → μ Nat
  /-- The name of an alternative, where one of several is wanted. -/
  alternative : ν → μ String
  /-- The elements, where a list is wanted. -/
  elements : ν → μ (List ν)
  /-- The members, where a dictionary is wanted. -/
  members : ν → μ (List (String × ν))
  /-- The members, where a record with the given fields is wanted. -/
  record : List String → ν → μ (List (String × ν))
  /-- The value that is there, where a value may be absent. -/
  present : ν → μ (Option ν)
  /-- The JSON value, where any value may stand. -/
  json : ν → μ Json
  /-- Reads nothing, since what is there is not what is wanted. -/
  refuse {α : Type} : μ α

namespace Datum

variable {ν α : Type} {μ : Type → Type} [Monad μ] [Datum ν μ]

/-- The value of a field, if it is given; a field that is given twice is refused. -/
def field (members : List (String × ν)) (name : String) : μ (Option ν) :=
  match members.filter fun member => member.1 == name with
  | [] => pure none
  | [member] => pure (some member.2)
  | _ => refuse ν

/-- Reads a field that must be there. -/
def requiredField (read : ν → μ α) (members : List (String × ν)) (name : String) : μ α := do
  match ← field members name with
  | some value => read value
  | none => refuse ν

/-- Reads a field for which a default stands in. -/
def defaultedField (read : ν → μ α) (default : α) (members : List (String × ν))
    (name : String) : μ α := do
  match ← field members name with
  | some value => read value
  | none => pure default

/-- Reads a field that may be left out or said to be absent. -/
def optionalField (read : ν → μ α) (members : List (String × ν)) (name : String) :
    μ (Option α) := do
  match ← field members name with
  | some value =>
    match ← present value with
    | some value => return some (← read value)
    | none => return none
  | none => return none

/-- Reads a list. -/
def list (read : ν → μ α) (value : ν) : μ (List α) := do
  (← elements value).mapM read

/-- Reads a dictionary; of members with one name the last one stays. -/
def dict (read : ν → μ α) (value : ν) : μ (Dict α) := do
  let entries ← (← members value).mapM fun member => do return (member.1, ← read member.2)
  return Dict.ofList entries

/-- Reads the name of one of several alternatives. -/
def oneOf (name : α → String) (alternatives : List α) (value : ν) : μ α := do
  let given ← alternative value
  match alternatives.find? fun candidate => name candidate == given with
  | some found => return found
  | none => refuse ν

/-- Reads a number that fits a byte. -/
def byte (value : ν) : μ UInt8 := do
  let n ← natural value
  if n < 256 then return UInt8.ofNat n else refuse ν

/-- Reads a number that fits 32 bits. -/
def word (value : ν) : μ UInt32 := do
  let n ← natural value
  if n < 4294967296 then return UInt32.ofNat n else refuse ν

end Datum

/-- A JSON value is of one kind and never read as another; `null` says that an optional
value is absent. An alternative is its name, or an object with `null` under that name, and a
record is an object, or the values of its fields in their order, up to the last one given. -/
instance : Datum Json Option where
  text := Json.string?
  truth
    | .bool value => some value
    | _ => none
  natural
    | .number (.integer value) => if 0 ≤ value.toInt then some value.toInt.toNat else none
    | _ => none
  alternative
    | .string name => some name
    | .object [(name, .null)] => some name
    | _ => none
  elements
    | .array elements => some elements
    | _ => none
  members
    | .object members => some members
    | _ => none
  record
    | _, .object members => some members
    | fields, .array values =>
      if values.length ≤ fields.length then some (fields.zip values) else none
    | _, _ => none
  present
    | .null => some none
    | value => some (some value)
  json := some
  refuse := none

end PredictionMarket
