import Salutation.Json.Fault

namespace Salutation
namespace Json

/-!
# Converting values

A value that has been built can be converted into something else without going
back to its text.  It is taken apart by the same visitors that go through a
text: an object hands over its members one after another, and a list its items.
A visitor need not take all of them, but what it does not take counts against
the value.  Nothing is known of the text at this point, so that a value that
does not fit has a cause and no position.

A built object is a table: its keys are in order, and each of them occurs once,
with the value that came last.
-/

/-- Why a value is not what was wanted. -/
inductive Misfit where
  | repeatedField (name : String)
  | wrongKind (found : Found) (wanted : String)
  | wrongLength (length : Nat) (wanted : String)
  deriving DecidableEq, Repr

namespace Misfit

def message : Misfit -> String
  | .repeatedField name => (Cause.repeatedField name).message
  | .wrongKind found wanted => (Cause.wrongKind found wanted).message
  | .wrongLength length wanted =>
      "invalid length " ++ toString length ++ ", expected " ++ wanted

end Misfit

namespace Table

/-- Put a value under a key, in place of what is there. -/
def insert (key : String) (value : Value) : List (String × Value) -> List (String × Value)
  | [] => [(key, value)]
  | (other, present) :: members =>
      if key < other then (key, value) :: (other, present) :: members
      else if key = other then (key, value) :: members
      else (other, present) :: insert key value members

/-- The table of members as they are written. -/
def ofMembers (members : List (String × Value)) : List (String × Value) :=
  members.foldl (fun table member => insert member.1 member.2 table) []

end Table

mutual
/-- A value with a table for every object in it. -/
def Value.tabled : Value -> Value
  | .scalar value => .scalar value
  | .list items => .list (Value.tabledItems items)
  | .object members => .object (Table.ofMembers (Value.tabledMembers members))

/-- The items of a list, each with its tables. -/
def Value.tabledItems : List Value -> List Value
  | [] => []
  | item :: items => item.tabled :: Value.tabledItems items

/-- The members of an object, each with its tables. -/
def Value.tabledMembers : List (String × Value) -> List (String × Value)
  | [] => []
  | (key, value) :: members => (key, value.tabled) :: Value.tabledMembers members
end

/-- What a visitor has made of the contents of a value, of which there were so
many, and what it has left of them. -/
def settle {Item Result : Type} (wanted : String) (length : Nat) :
    Except Misfit (Result × List Item) -> Except Misfit Result
  | .error misfit => .error misfit
  | .ok (result, []) => .ok result
  | .ok (_, _ :: _) => .error (.wrongLength length wanted)

/-- What is said of a list that has more items than were taken. -/
def fewerItems : String := "fewer elements in array"

/-- What is said of an object that has more members than were taken. -/
def fewerMembers : String := "fewer elements in map"

mutual
/-- Convert a value into a value: it is built once more from its parts. -/
def Value.rebuild : Value -> Except Misfit Value
  | .scalar value => .ok (.scalar value)
  | .list items =>
      match settle fewerItems items.length (Value.rebuildItems items) with
      | .error misfit => .error misfit
      | .ok rebuilt => .ok (.list rebuilt)
  | .object members =>
      match settle fewerMembers members.length (Value.rebuildMembers [] members) with
      | .error misfit => .error misfit
      | .ok table => .ok (.object table)

/-- The items of a list, all of which are taken. -/
def Value.rebuildItems : List Value -> Except Misfit (List Value × List Value)
  | [] => .ok ([], [])
  | item :: items =>
      match item.rebuild with
      | .error misfit => .error misfit
      | .ok rebuilt =>
          match Value.rebuildItems items with
          | .error misfit => .error misfit
          | .ok (others, left) => .ok (rebuilt :: others, left)

/-- The members of an object, all of which are put into a table. -/
def Value.rebuildMembers (table : List (String × Value)) :
    List (String × Value) -> Except Misfit (List (String × Value) × List (String × Value))
  | [] => .ok (table, [])
  | (key, value) :: members =>
      match value.rebuild with
      | .error misfit => .error misfit
      | .ok rebuilt => Value.rebuildMembers (Table.insert key rebuilt table) members
end

end Json
end Salutation
