import PredictionMarket.Decimal.Double
import PredictionMarket.Dict

/-!
# JSON values

A JSON number is an integer that fits a machine word, signed or unsigned, or else a
finite binary64 value. Members of an object are listed in the order in which they
are written; a value that was read lists them by ascending name, each name once.
-/

namespace PredictionMarket

open Decimal (Double)

/-- An integer that a signed or an unsigned 64-bit word holds. -/
structure WordInt where
  toInt : Int
  lower : -9223372036854775808 ≤ toInt
  upper : toInt < 18446744073709551616
deriving DecidableEq

/-- The word integer of an integer in range. -/
def WordInt.ofInt? (n : Int) : Option WordInt :=
  if inRange : -9223372036854775808 ≤ n ∧ n < 18446744073709551616 then
    some ⟨n, inRange.1, inRange.2⟩
  else none

/-- A JSON number. -/
inductive Number where
  | integer (value : WordInt)
  | double (value : Double)
deriving DecidableEq

/-- The binary64 value nearest to a number. -/
def Number.toDouble? : Number → Option Double
  | .integer value => Double.ofInt? value.toInt
  | .double value => some value

/-- A JSON value. -/
inductive Json where
  | null
  | bool (value : Bool)
  | number (value : Number)
  | string (value : String)
  | array (elements : List Json)
  | object (members : List (String × Json))

namespace Json

instance : Inhabited Json := ⟨null⟩

/-- Whether a value is `null`. -/
def isNull : Json → Bool
  | null => true
  | _ => false

/-- The text of a string. -/
def string? : Json → Option String
  | string value => some value
  | _ => none

/-- The object with the given members, by ascending name; of members with one name
the last one stays. -/
def ofMembers (members : List (String × Json)) : Json :=
  object (Dict.ofList members).entries

/-- The object that lists a dictionary of values. -/
def ofDict (members : Dict Json) : Json := object members.entries

/-- The natural number of a machine word, as a JSON number. -/
def ofUInt32 (n : UInt32) : Json :=
  number (.integer ⟨n.toNat, by omega, by have := n.toNat_lt; omega⟩)

/-- The natural number of a byte, as a JSON number. -/
def ofUInt8 (n : UInt8) : Json :=
  number (.integer ⟨n.toNat, by omega, by have := n.toNat_lt; omega⟩)

end Json

end PredictionMarket
