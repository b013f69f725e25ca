import Salutation.Json.Text

namespace Salutation
namespace Json

/-!
# Reading values

One reader serves two purposes.  A kept value is built, within limits on
nesting, numbers and texts.  A skipped value is only followed to its end, with
none of these limits.  Both go through the same steps in the same order, so
that what is kept in one way is skipped in the same way; they differ in the
leaves, and in how they name a comma that nothing follows.

Lists and objects are loops over a reader for what they contain, and values
are nested by giving the loops the reader of the level below.
-/

/-- The remaining letters of a keyword. -/
def readKeyword : Bytes -> Bytes -> Except Fault Bytes
  | [], input => .ok input
  | _ :: _, [] => .error ⟨.endInValue, []⟩
  | letter :: letters, byte :: rest =>
      if byte = letter then readKeyword letters rest else .error ⟨.keywordExpected, rest⟩

/-- A scalar, told by its first byte. -/
def readScalar (purpose : Purpose) (first : UInt8) (rest : Bytes) : Outcome Scalar :=
  let keyword (letters : String) (value : Scalar) : Outcome Scalar :=
    match readKeyword (Bytes.ofText letters) rest with
    | .error fault => .error fault
    | .ok after => .ok (value, after)
  let number (negative : Bool) (input : Bytes) : Outcome Scalar :=
    match readNumber purpose negative input with
    | .error fault => .error fault
    | .ok (value, after) => .ok (.number value, after)
  if first = ascii 'n' then keyword "ull" .null
  else if first = ascii 't' then keyword "rue" (.boolean true)
  else if first = ascii 'f' then keyword "alse" (.boolean false)
  else if first = ascii '-' then number true rest
  else if Bytes.isDigit first then number false (first :: rest)
  else if first = ascii '"' then
    match readText purpose rest with
    | .error fault => .error fault
    | .ok (value, after) => .ok (.text value, after)
  else .error ⟨.valueExpected, rest⟩

/-- A value, with readers for a list and an object whose opening bracket has
been consumed. -/
def readWith (purpose : Purpose) (list object : Reader Value) (input : Bytes) : Outcome Value :=
  match Bytes.skipSeparators input with
  | [] => .error ⟨.endInValue, []⟩
  | byte :: rest =>
      if byte = ascii '[' then list rest
      else if byte = ascii '\x7b' then object rest
      else
        match readScalar purpose byte rest with
        | .error fault => .error fault
        | .ok (value, after) => .ok (.scalar value, after)

/-- What the next step of a list or an object is. -/
inductive Step where
  | close (rest : Bytes)
  | element (rest : Bytes)

/-- In a list: close it, or go on to an item. -/
def nextItem (purpose : Purpose) (first : Bool) (input : Bytes) : Except Fault Step :=
  match Bytes.skipSeparators input with
  | [] => .error ⟨.endInList, []⟩
  | byte :: rest =>
      if byte = ascii ']' then .ok (.close rest)
      else if first then .ok (.element (byte :: rest))
      else if byte = ascii ',' then
        match Bytes.skipSeparators rest with
        | [] => .error ⟨.endInValue, []⟩
        | next :: after =>
            if next = ascii ']' then
              match purpose with
              | .keep => .error ⟨.trailingComma, after⟩
              | .skip => .error ⟨.valueExpected, after⟩
            else .ok (.element (next :: after))
      else .error ⟨.listSeparatorExpected, rest⟩

/-- In an object: close it, or go on to a key, from just after its opening
quote. -/
def nextKey (purpose : Purpose) (first : Bool) (input : Bytes) : Except Fault Step :=
  match Bytes.skipSeparators input with
  | [] => .error ⟨.endInObject, []⟩
  | byte :: rest =>
      if byte = ascii '\x7d' then .ok (.close rest)
      else if first then
        if byte = ascii '"' then .ok (.element rest) else .error ⟨.keyNotText, rest⟩
      else if byte = ascii ',' then
        match Bytes.skipSeparators rest with
        | [] =>
            match purpose with
            | .keep => .error ⟨.endInValue, []⟩
            | .skip => .error ⟨.endInObject, []⟩
        | next :: after =>
            if next = ascii '"' then .ok (.element after)
            else if next = ascii '\x7d' then
              match purpose with
              | .keep => .error ⟨.trailingComma, after⟩
              | .skip => .error ⟨.keyNotText, after⟩
            else .error ⟨.keyNotText, after⟩
      else .error ⟨.objectSeparatorExpected, rest⟩

/-- The colon between a key and its value. -/
def readColon (input : Bytes) : Except Fault Bytes :=
  match Bytes.skipSeparators input with
  | [] => .error ⟨.endInObject, []⟩
  | byte :: rest => if byte = ascii ':' then .ok rest else .error ⟨.colonExpected, rest⟩

/-- The elements of a list or an object up to its closing bracket, each of
them read after what was read before it.  The first argument bounds the number
of steps, one for each of its bytes; the input itself is always enough, and it
is used up only by an input that ends at once. -/
def readElements {State : Type} (next : Bool -> Bytes -> Except Fault Step) (ending : Cause)
    (element : State -> Reader State) : Bytes -> Bool -> State -> Reader State
  | [], _, _, _ => .error ⟨ending, []⟩
  | _ :: steps, first, state, input =>
      match next first input with
      | .error fault => .error fault
      | .ok (.close rest) => .ok (state, rest)
      | .ok (.element rest) =>
          match element state rest with
          | .error fault => .error fault
          | .ok (later, after) => readElements next ending element steps false later after

/-- An item of a list that is kept as a value, with the items already read in
reverse. -/
def readItem (value : Reader Value) : List Value -> Reader (List Value) :=
  fun items input =>
    match value input with
    | .error fault => .error fault
    | .ok (found, after) => .ok (found :: items, after)

/-- The items of a list. -/
def readItems (purpose : Purpose) (value : Reader Value) : Reader (List Value) :=
  fun input =>
    match readElements (nextItem purpose) .endInList (readItem value) input true [] input with
    | .error fault => .error fault
    | .ok (items, rest) => .ok (items.reverse, rest)

/-- A member of an object is read after its key by a function of what was
read before it, of the key, and of what follows. -/
abbrev MemberReader (State : Type) := State -> String -> Reader State

/-- A member of an object from just after the opening quote of its key. -/
def readMember {State : Type} (purpose : Purpose) (member : MemberReader State) :
    State -> Reader State :=
  fun state input =>
    match readText purpose input with
    | .error fault => .error fault
    | .ok (key, rest) => member state key rest

/-- The members of an object. -/
def readMembers {State : Type} (purpose : Purpose) (member : MemberReader State) (state : State) :
    Reader State :=
  fun input =>
    readElements (nextKey purpose) .endInObject (readMember purpose member) input true state input

/-- A member of an object that is kept as a value, with the members already
read in reverse. -/
def readValueMember (value : Reader Value) : MemberReader (List (String × Value)) :=
  fun members key input =>
    match readColon input with
    | .error fault => .error fault
    | .ok rest =>
        match value rest with
        | .error fault => .error fault
        | .ok (found, after) => .ok ((key, found) :: members, after)

/-- A value with at most the given number of containers inside each other.
One container more is refused at its opening bracket. -/
def readValue (purpose : Purpose) : Nat -> Reader Value
  | 0 =>
      let tooDeep : Reader Value := fun rest => .error ⟨.tooDeep, rest⟩
      readWith purpose tooDeep tooDeep
  | depth + 1 =>
      let inner := readValue purpose depth
      let list : Reader Value := fun rest =>
        match readItems purpose inner rest with
        | .error fault => .error fault
        | .ok (items, after) => .ok (.list items, after)
      let object : Reader Value := fun rest =>
        match readMembers purpose (readValueMember inner) [] rest with
        | .error fault => .error fault
        | .ok (members, after) => .ok (.object members.reverse, after)
      readWith purpose list object

/-- How many containers a kept value may have inside each other. -/
def depthLimit : Nat := 127

/-- Follow a value to its end.  No input nests deeper than it is long, so that
a depth of at least the length of the input is never used up. -/
def skipValue (depth : Nat) (input : Bytes) : Except Fault Bytes :=
  match readValue .skip depth input with
  | .error fault => .error fault
  | .ok (_, rest) => .ok rest

/-- A whole text: what the reader makes of it, followed by separators only. -/
def readAll {Result : Type} (reader : Reader Result) (input : Bytes) :
    Except Complaint Result :=
  match reader input with
  | .error fault => .error (fault.locate input)
  | .ok (result, rest) =>
      match Bytes.skipSeparators rest with
      | [] => .ok result
      | _ :: after => .error ((⟨.trailingBytes, after⟩ : Fault).locate input)

/-- The value that a whole text is. -/
def parse (input : Bytes) : Except Complaint Value :=
  readAll (readValue .keep depthLimit) input

end Json
end Salutation
