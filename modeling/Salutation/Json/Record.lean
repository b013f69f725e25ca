import Salutation.Json.Reader

namespace Salutation
namespace Json

/-!
# Records

A record is a fixed list of named fields with defaults.  It is read directly
from a text, without building a value first, in one of two forms: an object,
whose members are the fields in any order, or a list, whose items are the
fields in their order.  Fields that are left out keep their defaults.  In an
object an unknown member is skipped, and a field may occur only once; in a
list there may be no more items than fields.
-/

/-- A field of a record: its name, and how its value is read into the record. -/
structure Field (State : Type) where
  name : String
  read : State -> Reader State

/-- The fault of finding a value of another kind than the wanted one.  A
scalar is read first, and what is wrong with the scalar itself counts more; a
list or an object is left unread. -/
def wrongKind (wanted : String) (input : Bytes) : Fault :=
  match Bytes.skipSeparators input with
  | [] => ⟨.endInValue, []⟩
  | byte :: rest =>
      if byte = ascii '[' then ⟨.wrongKind .list wanted, byte :: rest⟩
      else if byte = ascii '\x7b' then ⟨.wrongKind .object wanted, byte :: rest⟩
      else
        match readScalar .keep byte rest with
        | .error fault => fault
        | .ok (value, after) => ⟨.wrongKind (.scalar value) wanted, after⟩

/-- A truth value. -/
def readBoolean (input : Bytes) : Outcome Bool :=
  match Bytes.skipSeparators input with
  | [] => .error ⟨.endInValue, []⟩
  | byte :: rest =>
      match readScalar .keep byte rest with
      | .ok (.boolean value, after) => .ok (value, after)
      | _ => .error (wrongKind "a boolean" input)

/-- A whole number that is not negative and fits 64 bits. -/
def readNatural (input : Bytes) : Outcome Nat :=
  match Bytes.skipSeparators input with
  | [] => .error ⟨.endInValue, []⟩
  | byte :: rest =>
      match readScalar .keep byte rest with
      | .ok (.number (.integer (.ofNat value)), after) => .ok (value, after)
      | .ok (.number (.integer (.negSucc below)), after) =>
          .error ⟨.wrongInteger (.negSucc below) "u64", after⟩
      | _ => .error (wrongKind "u64" input)

namespace Record

/-- The last step of a list: its closing bracket.  An item more than the
record has fields is refused where it begins. -/
def closeList (input : Bytes) : Except Fault Bytes :=
  match Bytes.skipSeparators input with
  | [] => .error ⟨.endInList, []⟩
  | byte :: rest =>
      if byte = ascii ']' then .ok rest
      else if byte = ascii ',' then
        match Bytes.skipSeparators rest with
        | [] => .error ⟨.trailingBytes, []⟩
        | next :: after =>
            if next = ascii ']' then .error ⟨.trailingComma, after⟩
            else .error ⟨.trailingBytes, after⟩
      else .error ⟨.trailingBytes, rest⟩

/-- The fields in their order, up to the closing bracket of a list. -/
def readItems {State : Type} : List (Field State) -> Bool -> State -> Reader State
  | [], _, state, input =>
      match closeList input with
      | .error fault => .error fault
      | .ok rest => .ok (state, rest)
  | field :: fields, first, state, input =>
      match nextItem .keep first input with
      | .error fault => .error fault
      | .ok (.close rest) => .ok (state, rest)
      | .ok (.element rest) =>
          match field.read state rest with
          | .error fault => .error fault
          | .ok (next, after) => readItems fields false next after

/-- What is left when a repeated field has been noticed: the separators after
its key are passed over, and so is a closing bracket that stands there. -/
def afterRepetition (input : Bytes) : Bytes :=
  match Bytes.skipSeparators input with
  | [] => []
  | byte :: rest => if byte = ascii '\x7d' then rest else byte :: rest

/-- One member of an object: a field that has not occurred yet, or an unknown
member, which is followed to the given depth.  The names of the fields that
have occurred go with the record. -/
def readField {State : Type} (fields : List (Field State)) (depth : Nat) :
    MemberReader (State × List String) :=
  fun (state, seen) key input =>
    match fields.find? (fun field => field.name == key) with
    | some field =>
        if seen.contains key then .error ⟨.repeatedField key, afterRepetition input⟩
        else
          match readColon input with
          | .error fault => .error fault
          | .ok rest =>
              match field.read state rest with
              | .error fault => .error fault
              | .ok (next, after) => .ok ((next, key :: seen), after)
    | none =>
        match readColon input with
        | .error fault => .error fault
        | .ok rest =>
            match skipValue depth rest with
            | .error fault => .error fault
            | .ok after => .ok ((state, seen), after)

/-- A record in either form.  The wanted kind is named when it is neither. -/
def read {State : Type} (wanted : String) (fields : List (Field State)) (defaults : State) :
    Reader State :=
  fun input =>
    match Bytes.skipSeparators input with
    | [] => .error ⟨.endInValue, []⟩
    | byte :: rest =>
        if byte = ascii '[' then readItems fields true defaults rest
        else if byte = ascii '\x7b' then
          match readMembers .keep (readField fields rest.length) (defaults, []) rest with
          | .error fault => .error fault
          | .ok ((state, _), after) => .ok (state, after)
        else .error (wrongKind wanted input)

end Record
end Json
end Salutation
