import Salutation.Text.Unprintable

namespace Salutation
namespace Text

/-!
# Quoted texts

A text inside a diagnostic stands between double quotes on one line.  Six
characters have short escapes, the unprintable ones are written by their
code point in lower-case hexadecimal, and all others stand for themselves.
-/

/-- How one character is written between the quotes. -/
def escapeQuoted (character : Char) : List Char :=
  if character = '\x00' then ['\\', '0']
  else if character = '\t' then ['\\', 't']
  else if character = '\r' then ['\\', 'r']
  else if character = '\n' then ['\\', 'n']
  else if character = '\\' then ['\\', '\\']
  else if character = '"' then ['\\', '"']
  else if isUnprintable character then
    ['\\', 'u', '\x7b'] ++ Nat.toDigits 16 character.toNat ++ ['\x7d']
  else [character]

/-- A text between double quotes. -/
def quoted (text : String) : String :=
  String.ofList ('"' :: text.toList.flatMap escapeQuoted ++ ['"'])

end Text
end Salutation
