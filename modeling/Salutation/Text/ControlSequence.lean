namespace Salutation
namespace Text

/-!
# Texts without control sequences

What a user typed is repeated in a refusal, and nothing in it may act on the
terminal that shows it.  Control characters are left out, white space apart,
and so is every control sequence as a whole: from the escape character up to
the character that ends a sequence of its kind.

White space inside a sequence is shown, and it interrupts the sequence: what
follows is shown too, until the next control character lets the sequence go on.
A character outside ASCII that is shown ends the sequence for good.
-/

/-- Where a character stands. -/
inductive Phase where
  /-- Outside any sequence. -/
  | text
  /-- After the escape character. -/
  | escape
  /-- After the first mark of a longer escape. -/
  | escapeMark
  /-- In a sequence with parameters, which a letter ends. -/
  | control
  /-- At the start of a device string. -/
  | device
  /-- In the parameters of a device string. -/
  | deviceParameter
  /-- After a mark in the head of a device string. -/
  | deviceMark
  /-- In a string that a terminator ends. -/
  | string
  /-- In a command to the system, which the bell ends. -/
  | command
  deriving DecidableEq, Repr

/-- A character that ends whatever sequence it stands in. -/
def isCancel (character : Char) : Bool := character = '\x18' || character = '\x1a'

/-- White space that is a control character. -/
def isBlankControl (character : Char) : Bool :=
  character = '\t' || character = '\n' || character = '\x0c' || character = '\r'

/-- A character that is shown outside sequences. -/
def isShown (character : Char) : Bool :=
  isBlankControl character || (0x20 <= character.toNat && character.toNat != 0x7f)

/-- Whether the byte that terminates strings is among those of a character. -/
def hasTerminator (character : Char) : Bool :=
  (String.utf8EncodeChar character).contains 0x9c

namespace Phase

/-- The phases in which white space is shown all the same. -/
def showsBlanks : Phase -> Bool
  | .escape => true
  | .escapeMark => true
  | .control => true
  | _ => false

/-- Where the character behind an escape character leads. -/
def afterEscape (character : Char) : Phase :=
  if character = '[' then .control
  else if character = ']' then .command
  else if character = 'P' then .device
  else if ['X', '^', '_'].contains character then .string
  else if ' ' <= character && character <= '/' then .escapeMark
  else if '0' <= character && character <= '~' then .text
  else .escape

/-- Where a character leads that is part of a sequence. -/
def next (phase : Phase) (character : Char) : Phase :=
  let within (low high : Char) : Bool := low <= character && character <= high
  match phase with
  | .text => .text
  | .escape => afterEscape character
  | .escapeMark => if within '0' '~' then .text else .escapeMark
  | .control => if within '@' '~' then .text else .control
  | .device =>
      if within ' ' '/' then .deviceMark
      else if within '0' '?' then .deviceParameter
      else if within '@' '~' then .string
      else .device
  | .deviceParameter =>
      if within ' ' '/' then .deviceMark
      else if within '<' '~' then .string
      else .deviceParameter
  | .deviceMark => if within '0' '~' then .string else .deviceMark
  | .string => if hasTerminator character then .text else .string
  | .command => if character = '\x07' then .text else .command

end Phase

/-- What is shown of a text, in a phase that may be interrupted. -/
def shownFrom : Phase -> Bool -> List Char -> List Char
  | _, _, [] => []
  | phase, interrupted, character :: rest =>
      if character = '\x1b' then shownFrom .escape false rest
      else if isCancel character then shownFrom .text false rest
      else if interrupted || phase = .text then
        if !isShown character then shownFrom phase false rest
        else if character.toNat < 0x80 then character :: shownFrom phase interrupted rest
        else character :: shownFrom .text false rest
      else if phase.showsBlanks && isBlankControl character then
        character :: shownFrom phase true rest
      else shownFrom (phase.next character) false rest

/-- A text without its control characters and control sequences. -/
def withoutControls (text : String) : String :=
  String.ofList (shownFrom .text false text.toList)

end Text
end Salutation
