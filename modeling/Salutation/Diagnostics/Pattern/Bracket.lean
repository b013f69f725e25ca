import Salutation.Diagnostics.Pattern.Escape

namespace Salutation
namespace Diagnostics
namespace Pattern

/-!
# Sets in brackets

A set lists characters, ranges, shorthands and named sets, and it may contain
other sets in brackets.  Three operations, each written as a doubled mark,
combine what stands before them with what follows.

Patterns nest only to a certain height, so that the height of a set is what
its reader finds out about it.
-/

/-- The height of parts side by side: one part stands for itself, and more of
them are put together in one thing more. -/
def heightOfAll : List Nat -> Nat
  | [] => 0
  | [height] => height
  | heights => heights.foldl max 0 + 1

/-- A set that has been opened: the heights of its members, the latest first,
and the height of what stands before the latest operation. -/
structure Bracket where
  members : List Nat
  before : Option Nat
  deriving DecidableEq, Repr

namespace Bracket

def height (bracket : Bracket) : Nat :=
  let members := heightOfAll bracket.members
  match bracket.before with
  | none => members
  | some before => max before members + 1

/-- A set with one member more. -/
def add (bracket : Bracket) (height : Nat) : Bracket :=
  { bracket with members := height :: bracket.members }

/-- A set that goes on with an operation. -/
def operate (bracket : Bracket) : Bracket := ⟨[], some bracket.height⟩

end Bracket

/-- The marks of the operations, which are written twice. -/
def operationMarks : List Char := ['&', '-', '~']

/-- The names of the sets of ASCII characters. -/
def setNames : List String :=
  ["alnum", "alpha", "ascii", "blank", "cntrl", "digit", "graph", "lower", "print", "punct",
   "space", "upper", "word", "xdigit"]

/-- A set by its name between colons, from just after its opening bracket:
whether it is negated. -/
def readSetName : List Char -> Option (Bool × List Char)
  | ':' :: text =>
      let negated := text.head? == some '^'
      let named := if negated then text.drop 1 else text
      if setNames.contains (String.ofList (named.takeWhile (· != ':'))) then
        match named.dropWhile (· != ':') with
        | ':' :: ']' :: rest => some (negated, rest)
        | _ => none
      else none
  | _ => none

/-- The dashes that a set begins with, which stand for themselves.  The first
argument bounds their number; the input itself is always enough. -/
def readDashes (mode : Mode) : List Char -> Nat -> List Char -> Nat × List Char
  | _ :: steps, count, '-' :: rest => readDashes mode steps (count + 1) (mode.skip rest)
  | _, count, text => (count, text)

/-- The start of a set, from just after its opening bracket.  A closing bracket
that comes first stands for itself. -/
def openBracket (mode : Mode) (text : List Char) : Option (Bracket × List Char) :=
  let inner := mode.skip text
  let negated := inner.head? == some '^'
  let content := if negated then mode.skip (inner.drop 1) else inner
  let (dashes, rest) := readDashes mode content 0 content
  if negated && !mode.supportsComplement then none
  else if dashes = 0 then
    match rest with
    | ']' :: after =>
        if mode.supportsMember ']' then some (⟨[0], none⟩, mode.skip after) else none
    | _ => some (⟨[], none⟩, rest)
  else if mode.supportsMember '-' then some (⟨List.replicate dashes 0, none⟩, rest)
  else none

/-- One character or escape inside brackets. -/
def readPrimitive (mode : Mode) : List Char -> Option (Primitive × List Char)
  | [] => none
  | '\\' :: rest => readEscape mode rest
  | character :: rest => some (.single character false, rest)

/-- The upper end of a range, from just after its dash. -/
def readRangeEnd (mode : Mode) (first : Primitive) (text : List Char) : Option (List Char) :=
  match first, readPrimitive mode (mode.skip text) with
  | .single low _, some (.single high _, rest) =>
      if low <= high && mode.supportsMember low && mode.supportsMember high then some rest
      else none
  | _, _ => none

/-- A member of a set that is no set itself: what follows it.  A dash makes a
range of it, unless the set ends there or a difference begins. -/
def readMember (mode : Mode) (text : List Char) : Option (List Char) :=
  match readPrimitive mode text with
  | none => none
  | some (first, rest) =>
      let single := if first.isMember mode then some (mode.skip rest) else none
      match mode.skip rest with
      | [] => none
      | '-' :: after =>
          if mode.peek after == some ']' || mode.peek after == some '-' then single
          else readRangeEnd mode first after
      | _ => single

/-- What is left of a set that has been opened, with the sets around it from the
inside outwards: the height of the outermost one.  The first argument bounds the
number of steps, one for each of its characters; the input itself is always
enough. -/
def readBrackets (mode : Mode) :
    List Char -> Bracket -> List Bracket -> List Char -> Option (Nat × List Char)
  | [], _, _, _ => none
  | _ :: steps, bracket, outer, text =>
      match mode.skip text with
      | [] => none
      | '[' :: rest =>
          match readSetName rest with
          | some (negated, after) =>
              if mode.supportsName negated then
                readBrackets mode steps (bracket.add 0) outer after
              else none
          | none =>
              match openBracket mode rest with
              | none => none
              | some (inner, after) => readBrackets mode steps inner (bracket :: outer) after
      | ']' :: rest =>
          match outer with
          | [] => some (bracket.height + 1, rest)
          | around :: others =>
              readBrackets mode steps (around.add (bracket.height + 1)) others rest
      | first :: rest =>
          if operationMarks.contains first && rest.head? == some first then
            readBrackets mode steps bracket.operate outer (rest.drop 1)
          else
            match readMember mode (first :: rest) with
            | none => none
            | some after => readBrackets mode steps (bracket.add 0) outer after

/-- A set, from just after its opening bracket. -/
def readBracket (mode : Mode) (text : List Char) : Option (Nat × List Char) :=
  match openBracket mode text with
  | none => none
  | some (bracket, rest) => readBrackets mode rest bracket [] rest

end Pattern
end Diagnostics
end Salutation
