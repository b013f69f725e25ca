import Salutation.Text.Alphanumeric

namespace Salutation
namespace Diagnostics
namespace Pattern

/-!
# The modes of a pattern

A directive may ask for the value of a field by a regular expression.  Such a
pattern is never matched here, because there are no spans to match it in, but
one that is malformed, or that asks for what is not supported, makes the whole
setting unreadable.  This folder therefore decides which patterns are accepted.

A pattern is read in a mode, which flags inside it can change.  What a mode
supports follows from two limits: there are no tables of character properties,
so that nothing that depends on one is accepted where characters of all scripts
count; and a pattern matches text, so that no part of it may match a byte that
is only a part of a character.
-/

/-- How the parts of a pattern are understood. -/
structure Mode where
  /-- Characters of all scripts count, and not just those of ASCII. -/
  unicode : Bool
  /-- Letters match in either case. -/
  ignoresCase : Bool
  /-- White space and comments between the parts mean nothing. -/
  spaced : Bool
  deriving DecidableEq, Repr

/-- The rest of a pattern after white space and comments.  The first argument
says whether a comment has begun; it lasts to the end of the line. -/
def skipFiller : Bool -> List Char -> List Char
  | _, [] => []
  | true, character :: rest => skipFiller (character != '\n') rest
  | false, character :: rest =>
      if Text.isSpace character then skipFiller false rest
      else if character = '#' then skipFiller true rest
      else character :: rest

/-- The first character of a pattern that is not white space.  A comment mark
is passed over too, but not the comment behind it.  Where nothing else follows,
the white space itself is found. -/
def peekPastFiller (text : List Char) : Option Char :=
  match text.dropWhile Text.isSpace with
  | [] => text.head?
  | '#' :: comment => ((comment.dropWhile Text.isSpace).head?).or text.head?
  | character :: _ => some character

namespace Mode

/-- The mode in which a pattern begins. -/
def initial : Mode := ⟨true, false, false⟩

/-- The rest of a pattern after what means nothing in a mode. -/
def skip (mode : Mode) (text : List Char) : List Char :=
  if mode.spaced then skipFiller false text else text

/-- The next character that means something, as far as can be seen without
reading on. -/
def peek (mode : Mode) (text : List Char) : Option Char :=
  if mode.spaced then peekPastFiller text else text.head?

/-- A character outside brackets.  Its other case would have to be looked up,
and a character that is written as an octet has to be one of ASCII where it
stands for a byte. -/
def supportsCharacter (mode : Mode) (character : Char) (octet : Bool) : Bool :=
  if mode.unicode then !mode.ignoresCase else !octet || character.toNat < 0x80

/-- A character inside brackets.  A set of bytes has characters of ASCII
only. -/
def supportsMember (mode : Mode) (character : Char) : Bool :=
  if mode.unicode then !mode.ignoresCase else character.toNat < 0x80

/-- A shorthand for the digits, the blanks or the letters of words. -/
def supportsShorthand (mode : Mode) (negated : Bool) : Bool :=
  !mode.unicode && !negated

/-- A set of ASCII characters by its name. -/
def supportsName (mode : Mode) (negated : Bool) : Bool :=
  if mode.unicode then !mode.ignoresCase else !negated

/-- The complement of a set, which has to be a set of characters. -/
def supportsComplement (mode : Mode) : Bool := mode.unicode

/-- Any character at all, which has to be a character. -/
def supportsAny (mode : Mode) : Bool := mode.unicode

/-- The edge of a word. -/
def supportsBoundary (mode : Mode) : Bool := !mode.unicode

/-- The letters of the flags. -/
def flagLetters : List Char := ['i', 'm', 's', 'U', 'u', 'R', 'x']

/-- A mode changed by flags.  Those behind a minus sign are taken away. -/
def change (mode : Mode) (flags : List Char) : Mode :=
  let given := flags.takeWhile (· != '-')
  let taken := flags.dropWhile (· != '-')
  let now (flag : Char) (before : Bool) : Bool :=
    given.contains flag || (before && !taken.contains flag)
  ⟨now 'u' mode.unicode, now 'i' mode.ignoresCase, now 'x' mode.spaced⟩

end Mode
end Pattern
end Diagnostics
end Salutation
