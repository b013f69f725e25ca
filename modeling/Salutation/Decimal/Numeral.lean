namespace Salutation
namespace Decimal

/-!
# Numbers in free form

A number may have a sign of either kind, digits on one side of the point or on
both, and an exponent, and the infinite and the undefined number have names.
Nothing is said here about the value of a number.
-/

/-- A text without its sign, if it has one. -/
def withoutSign : List Char -> List Char
  | '+' :: rest => rest
  | '-' :: rest => rest
  | text => text

/-- The names of what is not a finite number, in lower case. -/
def unusualNumbers : List String := ["inf", "infinity", "nan"]

/-- A whole number of digits, of which there must be some. -/
def isDigits (text : List Char) : Bool :=
  !text.isEmpty && text.all Char.isDigit

/-- The exponent of a number, if there is one, and nothing else. -/
def isExponent : List Char -> Bool
  | [] => true
  | mark :: rest => mark.toLower = 'e' && isDigits (withoutSign rest)

/-- Whether a text without a sign is a finite number. -/
def isFinite (text : List Char) : Bool :=
  let whole := text.takeWhile Char.isDigit
  match text.dropWhile Char.isDigit with
  | '.' :: rest =>
      let fraction := rest.takeWhile Char.isDigit
      !(whole.isEmpty && fraction.isEmpty) && isExponent (rest.dropWhile Char.isDigit)
  | rest => !whole.isEmpty && isExponent rest

/-- Whether a text is a number. -/
def isNumeral (text : List Char) : Bool :=
  let magnitude := withoutSign text
  unusualNumbers.contains (String.ofList (magnitude.map Char.toLower)) || isFinite magnitude

end Decimal
end Salutation
