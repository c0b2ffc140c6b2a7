import PredictionMarket.Decimal.Literal
import PredictionMarket.Json.Quoted

/-!
# What plain scalars denote

A plain scalar denotes nothing, a truth value, an integer, a floating point number or
else its own text. Integers are written in base ten, sixteen, eight or two; a number that
begins with superfluous zeros is a text.
-/

namespace PredictionMarket.Yaml

open Decimal (Double Literal)

/-- What a plain scalar denotes. -/
inductive Denoted where
  | nothing
  | truth (value : Bool)
  | integer (value : Int)
  | number (value : Double)
  /-- An infinite value, or none that is a number. -/
  | nonFinite
  | text

/-- Whether a text is a spelling of nothing. -/
def isNothing (text : List Char) : Bool :=
  text == "null".toList || text == "Null".toList || text == "NULL".toList || text == ['~']

/-- The truth value that a text spells. -/
def truth? (text : List Char) : Option Bool :=
  if text == "true".toList || text == "True".toList || text == "TRUE".toList then some true
  else if text == "false".toList || text == "False".toList || text == "FALSE".toList then
    some false
  else none

/-- Whether a text is a row of digits with superfluous zeros at its start. -/
def isZeroPadded (text : List Char) : Bool :=
  let shown :=
    match text with
    | '-' :: rest | '+' :: rest => rest
    | rest => rest
  match shown with
  | '0' :: c :: rest => (c :: rest).all Char.isDigit
  | _ => false

/-- The value of digits in a base of at most sixteen, when `start` was read before. -/
def valueIn? (base start : Nat) : List Char → Option Nat
  | [] => some start
  | c :: rest =>
    match Json.hexValue? c with
    | some digit => if digit < base then valueIn? base (start * base + digit) rest else none
    | none => none

/-- The natural number that a text denotes, without a sign. -/
def magnitude? (text : List Char) : Option Nat :=
  match text with
  | '0' :: 'x' :: c :: rest => valueIn? 16 0 (c :: rest)
  | '0' :: 'o' :: c :: rest => valueIn? 8 0 (c :: rest)
  | '0' :: 'b' :: c :: rest => valueIn? 2 0 (c :: rest)
  | [] => none
  | rest => if isZeroPadded rest then none else valueIn? 10 0 rest

/-- The natural number that a text denotes; it has no minus sign. -/
def natural? (text : List Char) : Option Nat :=
  match text with
  | '+' :: rest => magnitude? rest
  | rest => magnitude? rest

/-- The integer that a text denotes, of no more than 128 bits. -/
def integer? (text : List Char) : Option Int :=
  match text with
  | '-' :: rest =>
    (magnitude? rest).bind fun n => if n ≤ Nat.pow 2 127 then some (-(n : Int)) else none
  | rest => (natural? rest).bind fun n => if n < Nat.pow 2 128 then some (n : Int) else none

/-- Whether a text spells an infinite value, or none that is a number. -/
def isNonFinite (text : List Char) : Bool :=
  let isInfinity (text : List Char) : Bool :=
    text == ".inf".toList || text == ".Inf".toList || text == ".INF".toList
  let isUndefined :=
    text == ".nan".toList || text == ".NaN".toList || text == ".NAN".toList
  isUndefined ||
    match text with
    | '-' :: rest | '+' :: rest => isInfinity rest
    | rest => isInfinity rest

/-- The finite number that a text denotes. -/
def number? (text : List Char) : Option Double := (Literal.ofText? text).bind Literal.double?

/-- What a plain scalar denotes. -/
def denoted (text : List Char) : Denoted :=
  if text.isEmpty || isNothing text then .nothing
  else
    match truth? text, integer? text with
    | some value, _ => .truth value
    | none, some value => .integer value
    | none, none =>
      if isZeroPadded text then .text
      else if isNonFinite text then .nonFinite
      else
        match number? text with
        | some value => .number value
        | none => .text

/-- Whether a plain scalar denotes its own text. -/
def denotesText (text : List Char) : Bool :=
  match denoted text with
  | .text => true
  | _ => false

end PredictionMarket.Yaml
