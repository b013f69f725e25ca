import Mathlib.Data.List.Nodup
import Salutation.Payload.Conversion
import Salutation.Proofs.Json.Conversion
import Salutation.Proofs.Payload.Others

namespace Salutation
namespace Payload

open Json

/-!
# Why the second pass never fails

The conversion of an object goes wrong over a second name and over nothing else.
The value of any other key is dropped unseen, the value of the name is built
once more, which always succeeds, and no member is left over.  Since the first
pass hands over a table, there is no second name, and the two passes fail where
the first one fails.
-/

theorem nameOfValue_eq (value : Value) : nameOfValue value = .ok value.text? := by
  rw [nameOfValue, Value.rebuild_eq]
  simp only [Value.text?_tabled]

theorem takeMembers_other {key : String} (different : key ≠ "name")
    (name : Option (Option String)) (value : Value) (members : List (String × Value)) :
    takeMembers name ((key, value) :: members) = takeMembers name members :=
  if_neg different

theorem takeMembers_first (value : Value) (members : List (String × Value)) :
    takeMembers none (("name", value) :: members) = takeMembers (some value.text?) members := by
  rw [takeMembers, nameOfValue_eq]
  rfl

theorem takeMembers_second (name : Option String) (value : Value)
    (members : List (String × Value)) :
    takeMembers (some name) (("name", value) :: members) = .error (.repeatedField "name") :=
  rfl

/-- Once there is a name, it stays until a second one is refused. -/
theorem takeMembers_some (name : Option String) (members : List (String × Value)) :
    takeMembers (some name) members =
      if nameCount members = 0 then .ok (⟨name⟩, []) else .error (.repeatedField "name") := by
  induction members with
  | nil => rfl
  | cons member members inductionHypothesis =>
      rcases member with ⟨key, value⟩
      by_cases same : key = "name"
      · rw [same, takeMembers_second, nameCount_cons_name, if_neg (Nat.succ_ne_zero _)]
      · rw [takeMembers_other same, inductionHypothesis, nameCount_cons_other value members same]

/-- Until there is a name, the others are dropped. -/
theorem takeMembers_none (members : List (String × Value)) :
    takeMembers none members =
      if nameCount members < 2 then .ok (ofMembers members, [])
      else .error (.repeatedField "name") := by
  induction members with
  | nil => rfl
  | cons member members inductionHypothesis =>
      rcases member with ⟨key, value⟩
      by_cases same : key = "name"
      · rw [same, takeMembers_first, takeMembers_some, nameCount_cons_name]
        by_cases last : nameCount members = 0
        · rw [if_pos last, if_pos (by omega), ofMembers_cons_name value last]
        · rw [if_neg last, if_neg (by omega)]
      · rw [takeMembers_other same, inductionHypothesis, nameCount_cons_other value members same,
          ofMembers_cons_other value members same]

/-- An object is converted unless it has two names. -/
theorem ofValue_object (members : List (String × Value)) :
    ofValue (.object members) =
      if nameCount members < 2 then .ok (ofMembers members)
      else .error (.repeatedField "name") := by
  rw [ofValue, takeMembers_none]
  split <;> rfl

/-- Members that are no table can be refused. -/
example : ofValue (.object [("name", .scalar .null), ("name", .scalar (.text "Ada"))]) =
    .error (.repeatedField "name") := rfl

theorem nameCount_lt_two {members : List (String × Value)}
    (once : (members.map Prod.fst).Nodup) : nameCount members < 2 := by
  have atMost := List.nodup_iff_count_le_one.mp once "name"
  rw [List.count, List.countP_map] at atMost
  exact Nat.lt_succ_of_le atMost

/-- A table tells the name that its members tell. -/
theorem ofMembers_table (members : List (String × Value)) :
    ofMembers (Table.ofMembers (Value.tabledMembers members)) = ofMembers members := by
  rw [ofMembers_eq, ofMembers_eq, Table.valuesOf_ofMembers, valuesOf_tabledMembers,
    List.getLast?_map]
  cases (valuesOf "name" members).getLast? with
  | none => rfl
  | some value => exact congrArg Payload.mk (Value.text?_tabled value)

theorem ofValue_table (members : List (String × Value)) :
    ofValue (.object (Table.ofMembers (Value.tabledMembers members))) =
      .ok (ofMembers members) := by
  have once := nameCount_lt_two (Table.ofMembers_ordered (Value.tabledMembers members)).nodup
  rw [ofValue_object, if_pos once, ofMembers_table]

/-- The two passes come to what is said of them together. -/
theorem parseInPasses_eq (input : Bytes) :
    parseInPasses input = (parse input).mapError .refused := by
  rw [parseInPasses, parse]
  split
  · rfl
  · cases Json.parse input with
    | error complaint => rfl
    | ok value =>
        cases value with
        | scalar value => rfl
        | list items => rfl
        | object members =>
            simp only [Value.tabled, ofValue_table]
            rfl

end Payload
end Salutation
