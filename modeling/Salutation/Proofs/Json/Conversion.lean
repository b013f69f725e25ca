import Mathlib.Data.List.Induction
import Salutation.Json.Conversion
import Salutation.Proofs.Json.Fields

namespace Salutation
namespace Json

/-!
# What a conversion finds

The keys of a table increase, so that each of them occurs once, and its value is
the last one that was written for it.  Building a value once more leaves nothing
out and cannot fail: it does to any value what was done to the value when it
was built.
-/

namespace Table

/-- The keys increase. -/
def Ordered (table : List (String × Value)) : Prop :=
  table.Pairwise (fun earlier later => earlier.1 < later.1)

theorem Ordered.nodup {table : List (String × Value)} (ordered : Ordered table) :
    (table.map Prod.fst).Nodup := by
  rw [List.Nodup, List.pairwise_map]
  refine List.Pairwise.imp ?_ ordered
  intro earlier later less same
  exact String.lt_irrefl _ (same ▸ less)

theorem mem_insert {key : String} {value : Value} {table : List (String × Value)}
    {pair : String × Value} (member : pair ∈ insert key value table) :
    pair = (key, value) ∨ pair ∈ table := by
  induction table with
  | nil => exact .inl (List.mem_singleton.mp member)
  | cons head table inductionHypothesis =>
      rcases head with ⟨other, present⟩
      rw [insert] at member
      split at member
      · exact List.mem_cons.mp member
      split at member
      · exact (List.mem_cons.mp member).imp_right (List.mem_cons_of_mem _)
      · rcases List.mem_cons.mp member with rfl | member
        · exact .inr List.mem_cons_self
        · exact (inductionHypothesis member).imp_right (List.mem_cons_of_mem _)

theorem Ordered.insert {table : List (String × Value)} (ordered : Ordered table) (key : String)
    (value : Value) : Ordered (insert key value table) := by
  induction table with
  | nil => exact List.pairwise_singleton _ _
  | cons head table inductionHypothesis =>
      rcases head with ⟨other, present⟩
      rcases List.pairwise_cons.mp ordered with ⟨before, others⟩
      rw [Table.insert]
      split
      · next less =>
          refine List.pairwise_cons.mpr ⟨?_, ordered⟩
          intro pair member
          rcases List.mem_cons.mp member with rfl | member
          · exact less
          · exact String.lt_trans less (before pair member)
      split
      · next same =>
          subst same
          exact List.pairwise_cons.mpr ⟨before, others⟩
      · next notLess different =>
          have greater : other < key :=
            Std.lt_of_le_of_ne (String.not_lt.mp notLess) (Ne.symm different)
          refine List.pairwise_cons.mpr ⟨?_, inductionHypothesis others⟩
          intro pair member
          rcases mem_insert member with rfl | member
          · exact greater
          · exact before pair member

/-- Members that are added at the end are put into the table last. -/
theorem ofMembers_append (members : List (String × Value)) (key : String) (value : Value) :
    ofMembers (members ++ [(key, value)]) = insert key value (ofMembers members) := by
  rw [ofMembers, List.foldl_append]
  rfl

theorem ofMembers_ordered (members : List (String × Value)) : Ordered (ofMembers members) := by
  induction members using List.reverseRecOn with
  | nil => exact List.Pairwise.nil
  | append_singleton members member inductionHypothesis =>
      rw [ofMembers_append]
      exact inductionHypothesis.insert _ _

theorem valuesOf_insert_other {name key : String} (different : key ≠ name) (value : Value)
    (table : List (String × Value)) :
    valuesOf name (insert key value table) = valuesOf name table := by
  induction table with
  | nil => exact valuesOf_other different _ _
  | cons head table inductionHypothesis =>
      rcases head with ⟨other, present⟩
      rw [insert]
      split
      · exact valuesOf_other different _ _
      split
      · next same =>
          rw [valuesOf_other different, valuesOf_other (same ▸ different)]
      · by_cases named : other = name
        · rw [named, valuesOf_same, valuesOf_same, inductionHypothesis]
        · rw [valuesOf_other named, valuesOf_other named, inductionHypothesis]

/-- A key that is not there has no values. -/
theorem valuesOf_eq_nil {name : String} {table : List (String × Value)}
    (absent : forall pair, pair ∈ table -> pair.1 ≠ name) : valuesOf name table = [] := by
  rw [valuesOf, List.map_eq_nil_iff, List.filter_eq_nil_iff]
  intro pair member same
  exact absent pair member (eq_of_beq same)

theorem valuesOf_insert_same {table : List (String × Value)} (ordered : Ordered table)
    (name : String) (value : Value) : valuesOf name (insert name value table) = [value] := by
  induction table with
  | nil => exact valuesOf_same _ _ _
  | cons head table inductionHypothesis =>
      rcases head with ⟨other, present⟩
      rcases List.pairwise_cons.mp ordered with ⟨before, others⟩
      rw [insert]
      split
      · next less =>
          have absent : valuesOf name ((other, present) :: table) = [] := by
            apply valuesOf_eq_nil
            rintro pair member rfl
            rcases List.mem_cons.mp member with rfl | member
            · exact String.lt_irrefl _ less
            · exact String.lt_asymm less (before pair member)
          rw [valuesOf_same, absent]
      split
      · next same =>
          subst same
          have absent : valuesOf name table = [] := by
            apply valuesOf_eq_nil
            rintro pair member rfl
            exact String.lt_irrefl _ (before pair member)
          rw [valuesOf_same, absent]
      · next different =>
          rw [valuesOf_other (Ne.symm different), inductionHypothesis others]

theorem valuesOf_append (name : String) (first second : List (String × Value)) :
    valuesOf name (first ++ second) = valuesOf name first ++ valuesOf name second := by
  rw [valuesOf, List.filter_append, List.map_append, valuesOf, valuesOf]

/-- What is under a key of a table is what was written for it last. -/
theorem valuesOf_ofMembers (name : String) (members : List (String × Value)) :
    valuesOf name (ofMembers members) = (valuesOf name members).getLast?.toList := by
  induction members using List.reverseRecOn with
  | nil => rfl
  | append_singleton members member inductionHypothesis =>
      rcases member with ⟨key, value⟩
      rw [ofMembers_append]
      by_cases same : key = name
      · subst same
        rw [valuesOf_insert_same (ofMembers_ordered members), valuesOf_append, valuesOf_same,
          List.getLast?_append]
        rfl
      · rw [valuesOf_insert_other same, inductionHypothesis, valuesOf_append,
          valuesOf_other same]
        simp [valuesOf]

end Table

/-! ## Building once more -/

mutual
/-- To build a value once more is to make its tables. -/
theorem Value.rebuild_eq (value : Value) : value.rebuild = .ok value.tabled := by
  cases value with
  | scalar value => rfl
  | list items => rw [Value.rebuild, Value.rebuildItems_eq items, Value.tabled, settle]
  | object members =>
      rw [Value.rebuild, Value.rebuildMembers_eq members [], Value.tabled, settle, Table.ofMembers]

theorem Value.rebuildItems_eq (items : List Value) :
    Value.rebuildItems items = .ok (Value.tabledItems items, []) := by
  cases items with
  | nil => rfl
  | cons item items =>
      simp only [Value.rebuildItems, Value.rebuild_eq item, Value.rebuildItems_eq items,
        Value.tabledItems]

/-- The members go into the table one after another. -/
theorem Value.rebuildMembers_eq (members table : List (String × Value)) :
    Value.rebuildMembers table members =
      .ok ((Value.tabledMembers members).foldl
        (fun table member => Table.insert member.1 member.2 table) table, []) := by
  cases members with
  | nil => rfl
  | cons member members =>
      rcases member with ⟨key, value⟩
      simp only [Value.rebuildMembers, Value.rebuild_eq value, Value.rebuildMembers_eq members,
        Value.tabledMembers, List.foldl_cons]
end

/-- A text is built as it is, and nothing else becomes one. -/
@[simp]
theorem Value.text?_tabled (value : Value) : value.tabled.text? = value.text? := by
  cases value with
  | scalar value => rfl
  | list items => rfl
  | object members => rfl

theorem Value.tabledMembers_eq (members : List (String × Value)) :
    Value.tabledMembers members = members.map (fun member => (member.1, member.2.tabled)) := by
  induction members with
  | nil => rfl
  | cons member members inductionHypothesis =>
      rw [Value.tabledMembers, inductionHypothesis, List.map_cons]

theorem valuesOf_tabledMembers (name : String) (members : List (String × Value)) :
    valuesOf name (Value.tabledMembers members) = (valuesOf name members).map Value.tabled := by
  rw [Value.tabledMembers_eq, valuesOf, valuesOf, List.filter_map, List.map_map, List.map_map]
  rfl

end Json
end Salutation
