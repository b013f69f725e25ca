import Salutation.Json.Conversion
import Salutation.Payload

namespace Salutation
namespace Payload

/-!
# Payloads in two passes

A payload is read in two passes.  The first one builds the value of the whole
input, and the second one converts that value, of which only the name counts.
Either pass can fail in its own way: the first at a place of the input, and the
second without one.  `Payload.parse` says what the two come to.
-/

/-- What is said when a value of another kind is to be a payload. -/
def kind : String := "struct GreetingRequest"

/-- The name in a value of any kind: the value is built once more, and only a
text counts. -/
def nameOfValue (value : Json.Value) : Except Json.Misfit (Option String) :=
  match value.rebuild with
  | .error misfit => .error misfit
  | .ok rebuilt => .ok rebuilt.text?

/-- The members of an object.  The name may occur once, and defaults to none;
all others are taken and dropped. -/
def takeMembers (name : Option (Option String)) :
    List (String × Json.Value) -> Except Json.Misfit (Payload × List (String × Json.Value))
  | [] => .ok (⟨name.getD anonymous.name⟩, [])
  | (key, value) :: members =>
      if key = nameKey then
        if name.isSome then .error (.repeatedField nameKey)
        else
          match nameOfValue value with
          | .error misfit => .error misfit
          | .ok found => takeMembers (some found) members
      else takeMembers name members

/-- The items of a list, of which the first one is the name. -/
def takeItems : List Json.Value -> Except Json.Misfit (Payload × List Json.Value)
  | [] => .ok (anonymous, [])
  | item :: items =>
      match nameOfValue item with
      | .error misfit => .error misfit
      | .ok name => .ok (⟨name⟩, items)

/-- Convert a value into a payload. -/
def ofValue : Json.Value -> Except Json.Misfit Payload
  | .scalar value => .error (.wrongKind (.scalar value) kind)
  | .list items => Json.settle Json.fewerItems items.length (takeItems items)
  | .object members => Json.settle Json.fewerMembers members.length (takeMembers none members)

/-- Why the two passes come to nothing. -/
inductive Failure where
  | refused (refusal : Refusal)
  | unfit (misfit : Json.Misfit)
  deriving DecidableEq, Repr

namespace Failure

def message : Failure -> String
  | .refused refusal => refusal.message
  | .unfit misfit => "input is not valid JSON: " ++ misfit.message

end Failure

/-- Read a whole input in two passes.  Only an object gets as far as the second
one. -/
def parseInPasses (input : Bytes) : Except Failure Payload :=
  if input.all Bytes.isBlank then .error (.refused .empty)
  else
    match Json.parse input with
    | .error complaint => .error (.refused (.notJson complaint))
    | .ok value =>
        match value.tabled with
        | .object table =>
            match ofValue (.object table) with
            | .error misfit => .error (.unfit misfit)
            | .ok payload => .ok payload
        | _ => .error (.refused .notObject)

end Payload
end Salutation
