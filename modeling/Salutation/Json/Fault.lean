import Salutation.Bytes
import Salutation.Json.Value

namespace Salutation
namespace Json

/-!
# What is wrong with a text, and where

A reader that gives up reports a cause and the bytes it has not consumed.
The place of a fault is therefore always a place in the input: the number of
bytes consumed is the length of the input less the length of what is left.
Line and column are computed from the consumed bytes alone, and only when a
complaint leaves the reader.
-/

inductive Cause where
  | endInList
  | endInObject
  | endInText
  | endInValue
  | colonExpected
  | listSeparatorExpected
  | objectSeparatorExpected
  | keywordExpected
  | valueExpected
  | badEscape
  | badNumber
  | numberOutOfRange
  | notUtf8
  | controlCharacter
  | keyNotText
  | loneSurrogate
  | brokenSurrogatePair
  | trailingComma
  | trailingBytes
  | tooDeep
  | repeatedField (name : String)
  | wrongKind (found : Found) (wanted : String)
  | wrongInteger (value : Int) (wanted : String)
  deriving DecidableEq, Repr

namespace Cause

def message : Cause -> String
  | .endInList => "EOF while parsing a list"
  | .endInObject => "EOF while parsing an object"
  | .endInText => "EOF while parsing a string"
  | .endInValue => "EOF while parsing a value"
  | .colonExpected => "expected `:`"
  | .listSeparatorExpected => "expected `,` or `]`"
  | .objectSeparatorExpected => "expected `,` or `\x7d`"
  | .keywordExpected => "expected ident"
  | .valueExpected => "expected value"
  | .badEscape => "invalid escape"
  | .badNumber => "invalid number"
  | .numberOutOfRange => "number out of range"
  | .notUtf8 => "invalid unicode code point"
  | .controlCharacter => "control character (\\u0000-\\u001F) found while parsing a string"
  | .keyNotText => "key must be a string"
  | .loneSurrogate => "lone leading surrogate in hex escape"
  | .brokenSurrogatePair => "unexpected end of hex escape"
  | .trailingComma => "trailing comma"
  | .trailingBytes => "trailing characters"
  | .tooDeep => "recursion limit exceeded"
  | .repeatedField name => "duplicate field `" ++ name ++ "`"
  | .wrongKind found wanted => "invalid type: " ++ found.describe ++ ", expected " ++ wanted
  | .wrongInteger value wanted =>
      "invalid value: " ++ (Number.integer value).describe ++ ", expected " ++ wanted

end Cause

/-- A cause and the bytes that were not consumed when it was found. -/
structure Fault where
  cause : Cause
  rest : Bytes
  deriving DecidableEq, Repr

/-- Lines count from one, columns are the consumed bytes of the last line. -/
structure Position where
  line : Nat
  column : Nat
  deriving DecidableEq, Repr

namespace Position

/-- The position just after the consumed bytes. -/
def after (consumed : Bytes) : Position where
  line := 1 + consumed.count 0x0a
  column := (consumed.reverse.takeWhile (· != 0x0a)).length

end Position

/-- A cause and its position in the input. -/
structure Complaint where
  cause : Cause
  position : Position
  deriving DecidableEq, Repr

namespace Complaint

def message (complaint : Complaint) : String :=
  complaint.cause.message ++ " at line " ++ toString complaint.position.line ++
    " column " ++ toString complaint.position.column

end Complaint

namespace Fault

/-- Turn what is left of an input into a position in it. -/
def locate (fault : Fault) (input : Bytes) : Complaint where
  cause := fault.cause
  position := .after (input.take (input.length - fault.rest.length))

end Fault

/-- What a reader makes of the bytes before it: a result and the bytes left,
or a fault. -/
abbrev Outcome (Result : Type) := Except Fault (Result × Bytes)

abbrev Reader (Result : Type) := Bytes -> Outcome Result

end Json
end Salutation
