import Salutation.Decimal.Shortest
import Salutation.Text.Quoted

namespace Salutation
namespace Json

/-!
# JSON values

A value is a scalar, a list or an object.  An object keeps all its members in
the order in which they are written, repeated keys included; it is the look-up
that lets the last member of a key win.

A number is an integer when it is written without fraction and exponent and
fits 64 bits, with or without a sign.  Any other number is a real of double
precision, and so is a negative zero.
-/

inductive Number where
  | integer (value : Int)
  | real (negative : Bool) (magnitude : Decimal.Binary64)
  deriving DecidableEq, Repr

inductive Scalar where
  | null
  | boolean (value : Bool)
  | number (value : Number)
  | text (value : String)
  deriving DecidableEq, Repr

inductive Value where
  | scalar (value : Scalar)
  | list (items : List Value)
  | object (members : List (String × Value))

/-- What is said of a value where another kind of value was wanted.  Of a
list or an object nothing but its kind is known at that point. -/
inductive Found where
  | scalar (value : Scalar)
  | list
  | object
  deriving DecidableEq, Repr

namespace Number

/-- A number as it appears in a complaint about its kind. -/
def describe : Number -> String
  | .integer value => "integer `" ++ toString value ++ "`"
  | .real negative magnitude =>
      "floating point `" ++ (if negative then "-" else "") ++ magnitude.text ++ "`"

end Number

namespace Found

/-- A value as it appears in a complaint about its kind. -/
def describe : Found -> String
  | .scalar .null => "null"
  | .scalar (.boolean value) => "boolean `" ++ (if value then "true" else "false") ++ "`"
  | .scalar (.number value) => value.describe
  | .scalar (.text value) => "string " ++ Text.quoted value
  | .list => "sequence"
  | .object => "map"

end Found

namespace Value

/-- The text that a value is, if it is one. -/
def text? : Value -> Option String
  | .scalar (.text value) => some value
  | _ => none

end Value

/-- The value of the last member with a given key. -/
def lookupLast (key : String) (members : List (String × Value)) : Option Value :=
  (members.reverse.find? (fun member => member.1 == key)).map (·.2)

end Json
end Salutation
