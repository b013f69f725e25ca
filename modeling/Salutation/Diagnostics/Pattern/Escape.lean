import Salutation.Diagnostics.Pattern.Mode

namespace Salutation
namespace Diagnostics
namespace Pattern

/-!
# Escapes in patterns

A backslash takes the meaning from a punctuation mark or gives one to a
letter.  A letter without a meaning, a digit and any character outside ASCII
must not follow it.  Character properties are not supported in any mode, and
their letters are among those without a meaning here.
-/

/-- What a single character or an escape stands for. -/
inductive Primitive where
  /-- A character, which may be written as two hexadecimal digits. -/
  | single (character : Char) (octet : Bool)
  /-- The digits, the blanks or the letters of words, or all others. -/
  | shorthand (negated : Bool)
  /-- The edge of a word, or any other place. -/
  | boundary
  /-- The start or the end of the whole text. -/
  | extremity
  deriving DecidableEq, Repr

namespace Primitive

/-- Whether a primitive may stand outside brackets. -/
def isSupported (mode : Mode) : Primitive -> Bool
  | .single character octet => mode.supportsCharacter character octet
  | .shorthand negated => mode.supportsShorthand negated
  | .boundary => mode.supportsBoundary
  | .extremity => true

/-- Whether a primitive may stand inside brackets.  A place is no member of a
set. -/
def isMember (mode : Mode) : Primitive -> Bool
  | .single character _ => mode.supportsMember character
  | .shorthand negated => mode.supportsShorthand negated
  | .boundary => false
  | .extremity => false

end Primitive

/-- The value of a hexadecimal digit, in either case. -/
def hexadecimal? (character : Char) : Option Nat :=
  if character.isDigit then some (character.toNat - 0x30)
  else if 'a' <= character && character <= 'f' then some (character.toNat - 0x57)
  else if 'A' <= character && character <= 'F' then some (character.toNat - 0x37)
  else none

/-- A character by a number of hexadecimal digits, with the value of those
already read. -/
def readCodePoint (mode : Mode) : Nat -> Nat -> List Char -> Option (Char × List Char)
  | 0, value, text => if value.isValidChar then some (Char.ofNat value, text) else none
  | _ + 1, _, [] => none
  | digits + 1, value, character :: rest =>
      match hexadecimal? character with
      | none => none
      | some digit => readCodePoint mode digits (value * 16 + digit) (mode.skip rest)

/-- The characters that a letter stands for after a backslash. -/
def namedCharacters : List (Char × Char) :=
  [('a', '\x07'), ('f', '\x0c'), ('t', '\t'), ('n', '\n'), ('r', '\r'), ('v', '\x0b')]

/-- What one character stands for after a backslash. -/
def escaped? (character : Char) : Option Primitive :=
  match namedCharacters.lookup character with
  | some named => some (.single named false)
  | none =>
      if ['d', 's', 'w'].contains character then some (.shorthand false)
      else if ['D', 'S', 'W'].contains character then some (.shorthand true)
      else if ['b', 'B', '<', '>'].contains character then some .boundary
      else if ['A', 'z'].contains character then some .extremity
      else if character.toNat < 0x80 && !character.isAlphanum then
        some (.single character false)
      else none

/-- An escape, from just after its backslash. -/
def readEscape (mode : Mode) : List Char -> Option (Primitive × List Char)
  | [] => none
  | character :: rest =>
      let code (digits : Nat) (octet : Bool) : Option (Primitive × List Char) :=
        (readCodePoint mode digits 0 (mode.skip rest)).map
          (fun read => (.single read.1 octet, read.2))
      if character = 'x' then code 2 true
      else if character = 'u' then code 4 false
      else if character = 'U' then code 8 false
      else (escaped? character).map (fun primitive => (primitive, rest))

end Pattern
end Diagnostics
end Salutation
