import Salutation.Json.Reader

namespace Salutation
namespace Json

/-!
# The grammar of JSON texts

The rules of this module relate written forms to what they stand for.  They
are rules about byte strings and do not say how a reader goes through one:
nothing is left over, nothing is looked ahead at, and no rule mentions a limit
on nesting.  Characters outside ASCII can occur only inside text literals,
where each of them stands in its UTF-8 form, so that every text of the grammar
is the UTF-8 form of a text in characters.

A literal can be taken for its value or merely be passed over, and the two
purposes differ in the leaves of the grammar and nowhere else.  A number that
is kept must denote a number, and a text that is kept must spell characters.
A number that is skipped need only be written like one, and a text that is
skipped need only be closed.
-/

/-- The power of ten that a literal states in its exponent. -/
def Numeral.statedPower (numeral : Numeral) : Int :=
  match numeral.exponent with
  | none => 0
  | some (true, digits) => -(Numeral.digitsValue digits : Int)
  | some (false, digits) => Numeral.digitsValue digits

/-- The number that a literal stands for within the limits of 64 bits and of
double precision.  An exponent beyond 31 bits is a limit of its own: nothing
but zero is left of a number so small, and no number so large is accepted. -/
inductive Numeral.Denotes (numeral : Numeral) : Number -> Prop
  | integer {value : Int} :
      numeral.integer? = some value -> Numeral.Denotes numeral (.integer value)
  | real {number : Number} :
      numeral.integer? = none ->
      numeral.statedPower.natAbs < Numeral.exponentLimit ->
      Numeral.real? numeral.negative numeral.significand.1
        (numeral.significand.2 + numeral.statedPower) = some number ->
      Numeral.Denotes numeral number
  | vanishing :
      numeral.integer? = none ->
      Numeral.exponentLimit <= numeral.statedPower.natAbs ->
      numeral.statedPower < 0 ∨ numeral.significand.1 = 0 ->
      Numeral.Denotes numeral (.real numeral.negative .zero)

namespace Grammar

/-- Any number of separators.  A gap may stand around every token. -/
def Gap (gap : Bytes) : Prop :=
  forall byte, byte ∈ gap -> Bytes.isSeparator byte = true

/-! ## Numbers -/

/-- Decimal digits and their values. -/
inductive Digits : Bytes -> List Nat -> Prop
  | none : Digits [] []
  | digit {value : Nat} {bytes : Bytes} {values : List Nat} :
      value <= 9 -> Digits bytes values ->
      Digits (UInt8.ofNat (value + 0x30) :: bytes) (value :: values)

/-- The digits before the point: a zero, or digits that do not start with one. -/
inductive Whole : Bytes -> List Nat -> Prop
  | zero : Whole [ascii '0'] [0]
  | digits {bytes : Bytes} {leading : Nat} {others : List Nat} :
      Digits bytes (leading :: others) -> leading ≠ 0 -> Whole bytes (leading :: others)

/-- A point and at least one digit, or nothing. -/
inductive Fraction : Bytes -> Option (List Nat) -> Prop
  | absent : Fraction [] none
  | present {bytes : Bytes} {values : List Nat} :
      Digits bytes values -> values ≠ [] -> Fraction (ascii '.' :: bytes) (some values)

/-- The sign of an exponent. -/
inductive Sign : Bytes -> Bool -> Prop
  | absent : Sign [] false
  | plus : Sign [ascii '+'] false
  | minus : Sign [ascii '-'] true

/-- An exponent of at least one digit, or nothing. -/
inductive Exponent : Bytes -> Option (Bool × List Nat) -> Prop
  | absent : Exponent [] none
  | present {mark : UInt8} {sign bytes : Bytes} {negative : Bool} {values : List Nat} :
      mark = ascii 'e' ∨ mark = ascii 'E' -> Sign sign negative ->
      Digits bytes values -> values ≠ [] ->
      Exponent (mark :: (sign ++ bytes)) (some (negative, values))

/-- A literal without its minus sign. -/
inductive Unsigned (negative : Bool) : Bytes -> Numeral -> Prop
  | parts {first second third : Bytes} {whole : List Nat} {fraction : Option (List Nat)}
      {exponent : Option (Bool × List Nat)} :
      Whole first whole -> Fraction second fraction -> Exponent third exponent ->
      Unsigned negative (first ++ (second ++ third)) ⟨negative, whole, fraction, exponent⟩

/-- A number literal. -/
inductive Literal : Bytes -> Numeral -> Prop
  | positive {bytes : Bytes} {numeral : Numeral} :
      Unsigned false bytes numeral -> Literal bytes numeral
  | negative {bytes : Bytes} {numeral : Numeral} :
      Unsigned true bytes numeral -> Literal (ascii '-' :: bytes) numeral

/-- What becomes of a literal, kept or skipped.  Zero stands in for a skipped
one. -/
inductive Taken : Purpose -> Numeral -> Number -> Prop
  | kept {numeral : Numeral} {number : Number} :
      numeral.Denotes number -> Taken .keep numeral number
  | skipped {numeral : Numeral} : Taken .skip numeral (.integer 0)

/-- A number. -/
inductive NumberText (purpose : Purpose) : Bytes -> Number -> Prop
  | literal {bytes : Bytes} {numeral : Numeral} {number : Number} :
      Literal bytes numeral -> Taken purpose numeral number -> NumberText purpose bytes number

/-! ## Texts -/

/-- A hexadecimal digit, in either case. -/
inductive HexDigit : UInt8 -> Nat -> Prop
  | decimal {value : Nat} : value <= 9 -> HexDigit (UInt8.ofNat (value + 0x30)) value
  | lower {value : Nat} :
      10 <= value -> value <= 15 -> HexDigit (UInt8.ofNat (value + 0x57)) value
  | upper {value : Nat} :
      10 <= value -> value <= 15 -> HexDigit (UInt8.ofNat (value + 0x37)) value

/-- Four hexadecimal digits. -/
inductive CodeUnit : Bytes -> Nat -> Prop
  | digits {first second third fourth : UInt8} {a b c d : Nat} :
      HexDigit first a -> HexDigit second b -> HexDigit third c -> HexDigit fourth d ->
      CodeUnit [first, second, third, fourth] (((a * 16 + b) * 16 + c) * 16 + d)

/-- The letters of the short escapes, with the characters they stand for. -/
def shortEscapes : List (Char × Char) :=
  [('"', '"'), ('\\', '\\'), ('/', '/'), ('b', '\x08'), ('f', '\x0c'), ('n', '\n'),
   ('r', '\r'), ('t', '\t')]

/-- Characters as they may be spelled between quotes.  A character is never a
surrogate, so that a code unit by itself is a whole character and a surrogate
has to come as one half of a pair. -/
inductive Spelling : Bytes -> List Char -> Prop
  | nothing : Spelling [] []
  | plain {character : Char} {bytes : Bytes} {characters : List Char} :
      0x20 <= character.toNat -> character ≠ '"' -> character ≠ '\\' ->
      Spelling bytes characters ->
      Spelling (String.utf8EncodeChar character ++ bytes) (character :: characters)
  | short {letter character : Char} {bytes : Bytes} {characters : List Char} :
      (letter, character) ∈ shortEscapes -> Spelling bytes characters ->
      Spelling (ascii '\\' :: ascii letter :: bytes) (character :: characters)
  | unit {digits bytes : Bytes} {character : Char} {characters : List Char} :
      CodeUnit digits character.toNat -> Spelling bytes characters ->
      Spelling (ascii '\\' :: ascii 'u' :: (digits ++ bytes)) (character :: characters)
  | pair {first second bytes : Bytes} {high low : Nat} {character : Char}
      {characters : List Char} :
      CodeUnit first high -> CodeUnit second low ->
      0xd800 <= high -> high <= 0xdbff -> 0xdc00 <= low -> low <= 0xdfff ->
      character.toNat = 0x10000 + (high - 0xd800) * 0x400 + (low - 0xdc00) ->
      Spelling bytes characters ->
      Spelling (ascii '\\' :: ascii 'u' :: (first ++
        (ascii '\\' :: ascii 'u' :: (second ++ bytes)))) (character :: characters)

/-- What may stand between the quotes of a text that is only passed over. -/
inductive Passage : Bytes -> Prop
  | nothing : Passage []
  | plain {byte : UInt8} {bytes : Bytes} :
      0x20 <= byte -> byte ≠ ascii '"' -> byte ≠ ascii '\\' -> Passage bytes ->
      Passage (byte :: bytes)
  | short {letter character : Char} {bytes : Bytes} :
      (letter, character) ∈ shortEscapes -> Passage bytes ->
      Passage (ascii '\\' :: ascii letter :: bytes)
  | unit {digits bytes : Bytes} {value : Nat} :
      CodeUnit digits value -> Passage bytes ->
      Passage (ascii '\\' :: ascii 'u' :: (digits ++ bytes))

/-- What stands between the quotes of a text, kept or skipped. -/
inductive Quoted : Purpose -> Bytes -> String -> Prop
  | kept {bytes : Bytes} {characters : List Char} :
      Spelling bytes characters -> Quoted .keep bytes (String.ofList characters)
  | skipped {bytes : Bytes} : Passage bytes -> Quoted .skip bytes ""

/-- A text literal.  The empty text stands in for a skipped one. -/
inductive TextText (purpose : Purpose) : Bytes -> String -> Prop
  | quoted {bytes : Bytes} {text : String} :
      Quoted purpose bytes text ->
      TextText purpose (ascii '"' :: (bytes ++ [ascii '"'])) text

/-! ## Values -/

/-- A scalar. -/
inductive ScalarText (purpose : Purpose) : Bytes -> Scalar -> Prop
  | null : ScalarText purpose (Bytes.ofText "null") .null
  | true : ScalarText purpose (Bytes.ofText "true") (.boolean true)
  | false : ScalarText purpose (Bytes.ofText "false") (.boolean false)
  | number {bytes : Bytes} {number : Number} :
      NumberText purpose bytes number -> ScalarText purpose bytes (.number number)
  | text {bytes : Bytes} {text : String} :
      TextText purpose bytes text -> ScalarText purpose bytes (.text text)

/-- What follows an element of a list or an object: further elements, each
after a comma, with gaps around every one of them. -/
inductive Further {Item : Type} (item : Bytes -> Item -> Prop) : Bytes -> List Item -> Prop
  | done {gap : Bytes} : Gap gap -> Further item gap []
  | more {before after bytes rest : Bytes} {value : Item} {values : List Item} :
      Gap before -> Gap after -> item bytes value -> Further item rest values ->
      Further item (before ++ ascii ',' :: (after ++ (bytes ++ rest))) (value :: values)

/-- What stands between two brackets: elements with commas between them. -/
inductive Elements {Item : Type} (item : Bytes -> Item -> Prop) : Bytes -> List Item -> Prop
  | none {gap : Bytes} : Gap gap -> Elements item gap []
  | some {gap bytes rest : Bytes} {value : Item} {values : List Item} :
      Gap gap -> item bytes value -> Further item rest values ->
      Elements item (gap ++ (bytes ++ rest)) (value :: values)

/-- A member of an object: a key, a colon and a value. -/
inductive Member {Item : Type} (purpose : Purpose) (item : Bytes -> Item -> Prop) :
    Bytes -> String × Item -> Prop
  | pair {name before after bytes : Bytes} {key : String} {value : Item} :
      TextText purpose name key -> Gap before -> Gap after -> item bytes value ->
      Member purpose item (name ++ (before ++ ascii ':' :: (after ++ bytes))) (key, value)

/-- A value. -/
inductive ValueText (purpose : Purpose) : Bytes -> Value -> Prop
  | scalar {bytes : Bytes} {scalar : Scalar} :
      ScalarText purpose bytes scalar -> ValueText purpose bytes (.scalar scalar)
  | list {bytes : Bytes} {items : List Value} :
      Elements (ValueText purpose) bytes items ->
      ValueText purpose (ascii '[' :: (bytes ++ [ascii ']'])) (.list items)
  | object {bytes : Bytes} {members : List (String × Value)} :
      Elements (Member purpose (ValueText purpose)) bytes members ->
      ValueText purpose (ascii '\x7b' :: (bytes ++ [ascii '\x7d'])) (.object members)

/-- A whole text: one value, with gaps around it. -/
inductive Document : Bytes -> Value -> Prop
  | value {before bytes after : Bytes} {value : Value} :
      Gap before -> ValueText .keep bytes value -> Gap after ->
      Document (before ++ (bytes ++ after)) value

end Grammar

mutual
/-- How many containers of a value are inside each other at most. -/
def Value.nesting : Value -> Nat
  | .scalar _ => 0
  | .list items => Value.nestingOfItems items + 1
  | .object members => Value.nestingOfMembers members + 1

/-- The greatest nesting among the items of a list. -/
def Value.nestingOfItems : List Value -> Nat
  | [] => 0
  | item :: items => max item.nesting (Value.nestingOfItems items)

/-- The greatest nesting among the members of an object. -/
def Value.nestingOfMembers : List (String × Value) -> Nat
  | [] => 0
  | (_, value) :: members => max value.nesting (Value.nestingOfMembers members)
end

end Json
end Salutation
