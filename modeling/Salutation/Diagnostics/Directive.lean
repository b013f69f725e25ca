import Salutation.Decimal.Numeral
import Salutation.Diagnostics.Entry
import Salutation.Diagnostics.Pattern.Group

namespace Salutation
namespace Diagnostics

/-!
# Directives

A directive says from which level on the entries of some target are shown.
It is written as a level, as a target, or as a target and a level; between
them a span and field names may stand in brackets.

    level
    target
    target=level
    target[span{field=value}]=level

The cuts are found in the directive without the blanks around it, but they
are made in the directive as it stands, so that a blank in front shifts every
part, and a blank behind belongs to the last part.  Places count bytes in
UTF-8.  A shifted place may therefore lie inside a character, where nothing can
be cut.  Such a directive is refused like any other one that cannot be read,
which is what the rules for settings promise; a reader that cut the bytes there
all the same would have to stop the program.
-/

/-- The least important level that is shown, or none to show nothing. -/
abbrev Threshold := Option Level

namespace Threshold

/-- Everything is shown. -/
def everything : Threshold := some .trace

/-- Names of thresholds, in lower case. -/
def names : List (String × Threshold) :=
  [("error", some .error), ("warn", some .warn), ("info", some .info), ("debug", some .debug),
   ("trace", some .trace), ("off", none)]

/-- The thresholds by number, nothing first. -/
def byNumber : List Threshold :=
  [none, some .error, some .warn, some .info, some .debug, some .trace]

/-- The number that a text of digits denotes.  A plus sign may precede it. -/
def number? (text : List Char) : Option Nat :=
  let digits :=
    match text with
    | '+' :: rest => rest
    | _ => text
  if digits.isEmpty || digits.any (fun digit => !digit.isDigit) then none
  else some (digits.foldl (fun value digit => value * 10 + (digit.toNat - 0x30)) 0)

/-- A threshold by number or by name in any case.  The empty text, which some
places do not allow, names the errors. -/
def ofText? (text : List Char) : Option Threshold :=
  match (number? text).bind (fun number => byNumber[number]?) with
  | some threshold => some threshold
  | none =>
      if text.isEmpty then some (some .error)
      else names.lookup (String.ofList (text.map Char.toLower))

/-- Whether an entry of a level is shown. -/
def admits (threshold : Threshold) (level : Level) : Bool :=
  match threshold with
  | none => false
  | some least => level.rank <= least.rank

end Threshold

/-- A field that a directive mentions, with the value it asks for. -/
structure FieldPattern where
  name : String
  value : Option String
  deriving DecidableEq, Repr

structure Directive where
  target : Option String
  span : Option String
  fields : List FieldPattern
  threshold : Threshold
  deriving DecidableEq, Repr

namespace Directive

/-- A directive for all targets. -/
def ofThreshold (threshold : Threshold) : Directive := ⟨none, none, [], threshold⟩

/-- The characters of a text with their places, from a place on. -/
def placed (place : Nat) : List Char -> List (Nat × Char)
  | [] => []
  | character :: rest => (place, character) :: placed (place + character.utf8Size) rest

/-- A text before and after a place, unless the place lies inside a character or
behind the text. -/
def cut (place : Nat) : List Char -> Option (List Char × List Char)
  | [] => if place = 0 then some ([], []) else none
  | character :: rest =>
      if place = 0 then some ([], character :: rest)
      else if place < character.utf8Size then none
      else
        (cut (place - character.utf8Size) rest).map (fun parts =>
          (character :: parts.1, parts.2))

/-- The number of bytes that a text takes. -/
def size : List Char -> Nat
  | [] => 0
  | character :: rest => character.utf8Size + size rest

theorem cut_append (first last : List Char) :
    cut (size first) (first ++ last) = some (first, last) := by
  induction first with
  | nil => cases last <;> rfl
  | cons character first inductionHypothesis =>
      have positive : 0 < character.utf8Size := character.utf8Size_pos
      rw [size, List.cons_append, cut, if_neg (by omega), if_neg (by omega),
        Nat.add_sub_cancel_left, inductionHypothesis]
      rfl

/-- A text is cut into two parts, and the place is the number of bytes in the
first one. -/
theorem cut_eq_some_iff (place : Nat) (text first last : List Char) :
    cut place text = some (first, last) ↔ text = first ++ last ∧ place = size first := by
  constructor
  · intro parts
    induction text generalizing place first with
    | nil =>
        rw [cut] at parts
        split at parts
        · cases parts
          exact ⟨rfl, ‹place = 0›⟩
        · cases parts
    | cons character rest inductionHypothesis =>
        rw [cut] at parts
        split at parts
        · cases parts
          exact ⟨rfl, ‹place = 0›⟩
        · split at parts
          · cases parts
          · next large =>
              rcases Option.map_eq_some_iff.mp parts with ⟨⟨before, after⟩, found, same⟩
              simp only [Prod.mk.injEq] at same
              rcases same with ⟨rfl, rfl⟩
              rcases inductionHypothesis _ _ found with ⟨split, shorter⟩
              refine ⟨congrArg (character :: ·) split, ?_⟩
              rw [size]
              omega
  · rintro ⟨rfl, rfl⟩
    exact cut_append first last

/-- There is no cut inside a character of two bytes. -/
example : cut 2 " é".toList = none := by decide

/-- The part of a text from a place on. -/
def behind (text : List Char) (start : Nat) : Option (List Char) :=
  (cut start text).map (·.2)

/-- The part of a text from one place up to another. -/
def slice (text : List Char) (start stop : Nat) : Option (List Char) :=
  ((behind text start).bind (cut (stop - start))).map (·.1)

/-- The first of some characters with its place, and what follows it. -/
def seek (wanted : List Char) (characters : List (Nat × Char)) :
    Option ((Nat × Char) × List (Nat × Char)) :=
  match characters.dropWhile (fun item => !wanted.contains item.2) with
  | [] => none
  | found :: rest => some (found, rest)

/-- Whether a text may be asked for as the value of a field: a number, or a
pattern that is accepted. -/
def mayAskFor (value : List Char) : Bool :=
  Decimal.isNumeral value || Pattern.isAccepted value

/-- A field name, up to a value that is asked for.  What follows a second
equals sign is not read. -/
def fieldPattern (text : List Char) : Option FieldPattern :=
  match text.splitOn '=' with
  | name :: value :: _ =>
      if mayAskFor value then some ⟨String.ofList name, some (String.ofList value)⟩ else none
  | _ => some ⟨String.ofList text, none⟩

/-- Whether a directive without brackets may start with a character. -/
def mayStart (character : Char) : Bool :=
  character = '-' || character = ':' || character = '_' || Text.isAlphanumeric character

/-- The level after an equals sign.  Without one everything is shown. -/
def readThreshold (directive : Directive) (text : List Char) (start : Nat) : Option Directive :=
  match behind text start with
  | none => none
  | some [] => some { directive with threshold := .everything }
  | some level =>
      (Threshold.ofText? level).map (fun threshold => { directive with threshold })

/-- What may follow the closing bracket: nothing, or a level. -/
def readAfterBracket (directive : Directive) (text : List Char) :
    List (Nat × Char) -> Option Directive
  | [] => some directive
  | (place, character) :: _ =>
      if character = '=' then readThreshold directive text (place + 1) else none

/-- The fields between braces, of which there must be some. -/
def readFields (directive : Directive) (text : List Char) (start : Nat)
    (characters : List (Nat × Char)) : Option Directive :=
  match seek ['\x7d'] characters with
  | none => none
  | some ((stop, _), rest) =>
      match slice text start stop with
      | none => none
      | some [] => none
      | some field =>
          match fieldPattern field, rest with
          | some pattern, (_, ']') :: behind =>
              readAfterBracket { directive with fields := [pattern] } text behind
          | _, _ => none

/-- The span in brackets.  Before braces it may be left out. -/
def readBrackets (directive : Directive) (text : List Char) (start : Nat)
    (characters : List (Nat × Char)) : Option Directive :=
  match seek [']', '\x7b'] characters with
  | none => none
  | some ((stop, character), rest) =>
      match slice text start stop with
      | none => none
      | some name =>
          let span := String.ofList name
          if character = ']' then readAfterBracket { directive with span := some span } text rest
          else
            let named := if span.isEmpty then none else some span
            readFields { directive with span := named } text (stop + 1) rest

/-- A directive that starts with a target or is a level.  A text that names a
level is a level and not a target. -/
def readTarget (text : List Char) (characters : List (Nat × Char)) : Option Directive :=
  let all := ofThreshold .everything
  match seek ['=', '['] characters with
  | none =>
      match Threshold.ofText? text with
      | some threshold => some (ofThreshold threshold)
      | none => some { all with target := some (String.ofList text) }
  | some ((stop, character), rest) =>
      match slice text 0 stop with
      | none => none
      | some target =>
          let targeted := { all with target := some (String.ofList target) }
          if character = '=' then readThreshold targeted text (stop + 1)
          else readBrackets targeted text (stop + 1) rest

/-- A directive. -/
def ofText? (text : List Char) : Option Directive :=
  let characters := placed 0 (Text.trim text)
  match characters with
  | [] => none
  | (_, '[') :: rest => readBrackets (ofThreshold .everything) text 1 rest
  | (_, first) :: _ => if mayStart first then readTarget text characters else none

/-- A directive that asks for a span or for the value of a field can only
apply inside a span.  There are none here. -/
def needsSpan (directive : Directive) : Bool :=
  directive.span.isSome || directive.fields.any (fun field => field.value.isSome)

/-- Whether a directive has a say about an entry: the entry's target starts
with its target, and the entry has its fields. -/
def covers (directive : Directive) (entry : Entry) : Bool :=
  (match directive.target with
    | none => true
    | some target => target.toList.isPrefixOf entry.target.toList) &&
  directive.fields.all (fun field => entry.fieldNames.contains field.name)

/-- Directives for the same entries are compared by how much they ask for: a
longer target first, then more fields, then fields later in the alphabet. -/
def asksAsMuchAs (directive other : Directive) : Bool :=
  let size (target : Option String) : Nat :=
    match target with
    | none => 0
    | some target => target.utf8ByteSize + 1
  let names (fields : List FieldPattern) : List String := fields.map (·.name)
  if size directive.target ≠ size other.target then
    size other.target < size directive.target
  else if directive.fields.length ≠ other.fields.length then
    other.fields.length < directive.fields.length
  else (compare (names other.fields) (names directive.fields)).isLE

end Directive
end Diagnostics
end Salutation
