namespace Salutation

/-!
# Byte strings

Everything that is read from a stream or a file is a finite list of bytes.
Texts are kept as strings, and the two functions at the end of this module
are the only passage between the two.  A byte string that is not UTF-8 is
not a text at all: nothing is replaced or dropped on the way.
-/

/-- A finite byte string, in the order of arrival. -/
abbrev Bytes := List UInt8

/-- The byte of an ASCII character. -/
def ascii (character : Char) : UInt8 :=
  UInt8.ofNat character.toNat

namespace Bytes

/-- Space, tab, line feed and carriage return, the bytes that may separate
the tokens of a JSON text. -/
def isSeparator (byte : UInt8) : Bool :=
  byte == 0x20 || byte == 0x09 || byte == 0x0a || byte == 0x0d

/-- The ASCII blanks: the separators and the form feed.  The vertical tab
is not among them. -/
def isBlank (byte : UInt8) : Bool :=
  isSeparator byte || byte == 0x0c

/-- What remains after the leading separators. -/
def skipSeparators : Bytes -> Bytes
  | [] => []
  | byte :: rest => if isSeparator byte then skipSeparators rest else byte :: rest

/-- An ASCII decimal digit. -/
def isDigit (byte : UInt8) : Bool :=
  0x30 <= byte && byte <= 0x39

/-- The UTF-8 form of a text. -/
def ofText (text : String) : Bytes :=
  text.toUTF8.data.toList

/-- The text whose UTF-8 form is the given byte string, when there is one. -/
def toText? (bytes : Bytes) : Option String :=
  String.fromUTF8? bytes.toByteArray

/-- The number of bytes of the character that a byte string starts with, if it
starts with one. -/
def leadingWidth? (bytes : Bytes) : Option Nat :=
  [1, 2, 3, 4].find? (fun width =>
    let leading := bytes.take width
    leading.length == width && (toText? leading).isSome)

/-- The number of leading bytes that make up whole characters.  The first
argument bounds the number of characters. -/
def validLength : Nat -> Bytes -> Nat
  | 0, _ => 0
  | characters + 1, bytes =>
      match leadingWidth? bytes with
      | none => 0
      | some width => width + validLength characters (bytes.drop width)

end Bytes

end Salutation
