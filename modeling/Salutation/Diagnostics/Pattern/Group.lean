import Salutation.Diagnostics.Pattern.Bracket

namespace Salutation
namespace Diagnostics
namespace Pattern

/-!
# Groups and whole patterns

A pattern is a group without parentheses.  A group has alternatives, and an
alternative is a sequence of pieces.  Flags that stand alone change the mode up
to the end of their group, in the alternatives that follow as well.

A pattern stands between braces itself, so that no closing brace can occur in
it.  An opening one would begin a count of repetitions without an end and is
refused.
-/

/-- A piece of a sequence: flags, which cannot be repeated, or anything else,
with its height. -/
inductive Piece where
  | flags
  | part (height : Nat)
  deriving DecidableEq, Repr

namespace Piece

def height : Piece -> Nat
  | .flags => 0
  | .part height => height

end Piece

/-- A group that has been opened: its mode, the heights of the alternatives
that have been read, and the pieces of the latest one, the latest first. -/
structure Group where
  mode : Mode
  finished : List Nat
  pieces : List Piece
  deriving DecidableEq, Repr

namespace Group

/-- A group with nothing in it. -/
def empty (mode : Mode) : Group := ⟨mode, [], []⟩

/-- A group with one part more. -/
def add (group : Group) (height : Nat) : Group :=
  { group with pieces := .part height :: group.pieces }

/-- A group that goes on in another mode. -/
def set (group : Group) (mode : Mode) : Group :=
  { group with mode, pieces := .flags :: group.pieces }

/-- A group that goes on with another alternative. -/
def alternate (group : Group) : Group :=
  { group with
    finished := heightOfAll (group.pieces.map Piece.height) :: group.finished
    pieces := [] }

/-- A group whose latest piece is repeated. -/
def repeatLatest (group : Group) : Option Group :=
  match group.pieces with
  | .part height :: pieces => some { group with pieces := .part (height + 1) :: pieces }
  | _ => none

/-- The height of what is in a group. -/
def height (group : Group) : Nat :=
  heightOfAll (heightOfAll (group.pieces.map Piece.height) :: group.finished)

end Group

/-- What the opening parenthesis of a group says. -/
inductive Opening where
  /-- The parentheses hold nothing but flags. -/
  | flags (mode : Mode)
  /-- A group begins. -/
  | group (mode : Mode)
  /-- A group begins that is referred to by a name. -/
  | named (name : List Char)
  deriving DecidableEq, Repr

/-- The name of a group, from just after the angle that opens it.  A name begins
with a letter or an underscore. -/
def readName (text : List Char) : Option (Opening × List Char) :=
  let name := text.takeWhile (· != '>')
  let mayContinue (character : Char) : Bool :=
    ['_', '.', '[', ']'].contains character || Text.isAlphanumeric character
  match name, text.dropWhile (· != '>') with
  | first :: others, _ :: rest =>
      if (first = '_' || Text.isAlphabetic first) && others.all mayContinue then
        some (.named name, rest)
      else none
  | _, _ => none

/-- Flags, from just after the question mark that announces them.  Each may
occur once, the minus sign too, which must not come last. -/
def readFlags (mode : Mode) (text : List Char) : Option (Opening × List Char) :=
  let ends (character : Char) : Bool := character = ':' || character = ')'
  let flags := text.takeWhile (!ends ·)
  let known (flag : Char) : Bool := flag = '-' || Mode.flagLetters.contains flag
  if flags.all known && flags.Nodup && flags.getLast? != some '-' then
    match text.dropWhile (!ends ·) with
    | ':' :: rest => some (.group (mode.change flags), rest)
    | ')' :: rest => if flags.isEmpty then none else some (.flags (mode.change flags), rest)
    | _ => none
  else none

/-- What the opening parenthesis of a group says, from just after it. -/
def readOpening (mode : Mode) (text : List Char) : Option (Opening × List Char) :=
  match mode.skip text with
  | '?' :: 'P' :: '<' :: rest => readName rest
  | '?' :: '<' :: rest => readName rest
  | '?' :: rest => readFlags mode rest
  | rest => some (.group mode, rest)

/-- The rest of a pattern after a mark that makes a repetition lazy. -/
def skipLazy : List Char -> List Char
  | '?' :: rest => rest
  | text => text

/-- A part of a pattern that is neither a group nor a repetition: its height. -/
def readPart (mode : Mode) : Char -> List Char -> Option (Nat × List Char)
  | '[', rest => readBracket mode rest
  | '\x7b', _ => none
  | '.', rest => if mode.supportsAny then some (0, rest) else none
  | '^', rest => some (0, rest)
  | '$', rest => some (0, rest)
  | '\\', rest =>
      match readEscape mode rest with
      | none => none
      | some (primitive, after) =>
          if primitive.isSupported mode then some (0, after) else none
  | character, rest => if mode.supportsCharacter character false then some (0, rest) else none

/-- What is left of a pattern, in a group with the groups around it from the
inside outwards: the height of the pattern.  Names may not be used twice.  The
first argument bounds the number of steps, one for each of its characters; the
input itself is always enough. -/
def readGroups :
    List Char -> Group -> List Group -> List (List Char) -> List Char -> Option Nat
  | [], group, outer, _, _ => if outer.isEmpty then some group.height else none
  | _ :: steps, group, outer, names, text =>
      match group.mode.skip text with
      | [] => if outer.isEmpty then some group.height else none
      | '(' :: rest =>
          match readOpening group.mode rest with
          | none => none
          | some (.flags mode, after) => readGroups steps (group.set mode) outer names after
          | some (.group mode, after) =>
              readGroups steps (.empty mode) (group :: outer) names after
          | some (.named name, after) =>
              if names.contains name then none
              else readGroups steps (.empty group.mode) (group :: outer) (name :: names) after
      | ')' :: rest =>
          match outer with
          | [] => none
          | around :: others =>
              readGroups steps (around.add (group.height + 1)) others names rest
      | '|' :: rest => readGroups steps group.alternate outer names rest
      | first :: rest =>
          if ['?', '*', '+'].contains first then
            match group.repeatLatest with
            | none => none
            | some repeated => readGroups steps repeated outer names (skipLazy rest)
          else
            match readPart group.mode first rest with
            | none => none
            | some (height, after) => readGroups steps (group.add height) outer names after

/-- How high a pattern may be. -/
def heightLimit : Nat := 250

/-- Whether a pattern is accepted. -/
def isAccepted (text : List Char) : Bool :=
  match readGroups text (.empty .initial) [] [] text with
  | none => false
  | some height => height <= heightLimit

end Pattern
end Diagnostics
end Salutation
