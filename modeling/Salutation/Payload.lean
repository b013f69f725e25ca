import Salutation.Json.Record

namespace Salutation

/-!
# Payloads

A payload tells whom to greet.  It is a JSON object, and the only thing that
matters in it is the last member called "name": if that is a text, it is the
name.  There are two ways to read one.  `Payload.parse` builds the whole value
first and says in which of three ways an input fails to be a payload.
`Payload.reader` goes through the text once and skips what it does not need;
it also takes a list, and it refuses a second name.
-/

structure Payload where
  name : Option String
  deriving DecidableEq, Repr

namespace Payload

/-- The payload that names nobody. -/
def anonymous : Payload := ⟨none⟩

/-- The key of the member that matters. -/
def nameKey : String := "name"

/-- Why an input is not a payload. -/
inductive Refusal where
  | empty
  | notJson (complaint : Json.Complaint)
  | notObject
  deriving DecidableEq, Repr

namespace Refusal

def message : Refusal -> String
  | .empty => "input is empty"
  | .notJson complaint => "input is not valid JSON: " ++ complaint.message
  | .notObject => "input is JSON but not an object"

end Refusal

/-- The payload of an object. -/
def ofMembers (members : List (String × Json.Value)) : Payload where
  name := (Json.lookupLast nameKey members).bind (·.text?)

/-- Read a whole input as a payload.  An input of blanks only is empty, which
is not a fault of the JSON in it. -/
def parse (input : Bytes) : Except Refusal Payload :=
  if input.all Bytes.isBlank then .error .empty
  else
    match Json.parse input with
    | .error complaint => .error (.notJson complaint)
    | .ok (.object members) => .ok (ofMembers members)
    | .ok _ => .error .notObject

/-- The name as a field: a value of any kind, of which only a text counts.
It stands inside one container already. -/
def nameField : Json.Field Payload where
  name := nameKey
  read := fun _ input =>
    match Json.readValue .keep (Json.depthLimit - 1) input with
    | .error fault => .error fault
    | .ok (value, rest) => .ok (⟨value.text?⟩, rest)

/-- The payload as a record of one field. -/
def reader : Json.Reader Payload :=
  Json.Record.read "struct GreetingRequest" [nameField] anonymous

/-- Read a whole input as a record. -/
def decode (input : Bytes) : Except Json.Complaint Payload :=
  Json.readAll reader input

/-- The name to greet: a name that is not empty. -/
def displayName (payload : Payload) : Option String :=
  payload.name.filter (fun name => !name.isEmpty)

end Payload
end Salutation
