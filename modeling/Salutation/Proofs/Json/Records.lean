import Salutation.Json.Record
import Salutation.Proofs.Json.Skipping

namespace Salutation
namespace Json
namespace Record

open Grammar

/-!
# Records in the form of objects

A record is read from an object member by member.  A member of an unknown name
leaves the record as it is, a field changes the record as its reader does, and
a field that has occurred already ends the reading.  This is one step of the
loop over the members, and what a whole object comes to is the relation of its
steps carried along the members.
-/

section

variable {State Item : Type}

/-- What a record may come to by one more member.  The names of the fields that
have occurred go with the record. -/
inductive FieldStep (fields : List (Field State))
    (allowed : Field State -> State -> Item -> Except Cause State -> Prop) :
    State × List String -> String × Item -> Except Cause (State × List String) -> Prop
  | unknown {state : State} {seen : List String} {key : String} {item : Item} :
      fields.find? (fun field => field.name == key) = none ->
      FieldStep fields allowed (state, seen) (key, item) (.ok (state, seen))
  | repeated {state : State} {seen : List String} {key : String} {item : Item}
      {field : Field State} :
      fields.find? (fun field => field.name == key) = some field -> key ∈ seen ->
      FieldStep fields allowed (state, seen) (key, item) (.error (.repeatedField key))
  | field {state : State} {seen : List String} {key : String} {item : Item} {field : Field State}
      {result : Except Cause State} :
      fields.find? (fun field => field.name == key) = some field -> key ∉ seen ->
      allowed field state item result ->
      FieldStep fields allowed (state, seen) (key, item)
        (result.map fun later => (later, key :: seen))

variable {fields : List (Field State)} {item : Bytes -> Item -> Prop} {depth : Nat}
variable {allowed : Field State -> State -> Item -> Except Cause State -> Prop}

/-- A member whose value can be skipped makes one step. -/
theorem readField_settles
    (settles : forall field state gap bytes value rest, field ∈ fields -> Gap gap ->
      item bytes value -> Delimited rest ->
      Settles (allowed field state value) rest (field.read state (gap ++ (bytes ++ rest))))
    (skippable : forall bytes value, item bytes value ->
      bytes.length <= depth ∧ Exists fun other => ValueText .skip bytes other)
    (progress : State × List String) {key : String} {before after bytes rest : Bytes}
    {value : Item} (leading : Gap before) (trailing : Gap after) (element : item bytes value)
    (ends : Delimited rest) :
    Settles (FieldStep fields allowed progress (key, value)) rest
      (readField fields depth progress key
        (before ++ ascii ':' :: (after ++ (bytes ++ rest)))) := by
  rcases progress with ⟨state, seen⟩
  cases found : fields.find? (fun field => field.name == key) with
  | none =>
      rcases skippable bytes value element with ⟨enough, other, written⟩
      simp only [readField, found, readColon_append _ leading,
        skipValue_append trailing written enough ends]
      exact .read (.unknown found)
  | some field =>
      by_cases repeated : key ∈ seen
      · have contained : seen.contains key = true := List.contains_iff_mem.mpr repeated
        simp only [readField, found, contained, if_true]
        exact .refused (.repeated found repeated)
      · have fresh : seen.contains key = false := by
          apply Bool.eq_false_iff.mpr
          exact fun contained => repeated (List.contains_iff_mem.mp contained)
        have known := List.mem_of_find?_eq_some found
        apply (settles field state after bytes value rest known trailing element ends).map
        · intro fault failed
          simp only [readField, found, fresh, Bool.false_eq_true, if_false,
            readColon_append _ leading, failed]
        · intro later after read
          simp only [readField, found, fresh, Bool.false_eq_true, if_false,
            readColon_append _ leading, read]
          rfl
        · exact fun _ => .field found repeated

/-- Only members whose values can be skipped make a step. -/
theorem readField_sound
    (sound : forall field state input later rest, field ∈ fields ->
      field.read state input = .ok (later, rest) ->
      Exists fun value => Stands item input value rest ∧ allowed field state value (.ok later))
    (skips : forall input rest, skipValue depth input = .ok rest ->
      Exists fun value => Stands item input value rest)
    {progress later : State × List String} {key : String} {input rest : Bytes}
    (read : readField fields depth progress key input = .ok (later, rest)) :
    Exists fun before => Exists fun after => Exists fun bytes => Exists fun value =>
      Gap before ∧ Gap after ∧ input = before ++ ascii ':' :: (after ++ (bytes ++ rest)) ∧
      item bytes value ∧ FieldStep fields allowed progress (key, value) (.ok later) := by
  rcases progress with ⟨state, seen⟩
  simp only [readField] at read
  split at read
  · next field found =>
      split at read
      · cases read
      · next fresh =>
          split at read
          · cases read
          · next afterColon colon =>
              rcases readColon_sound colon with ⟨before, leading, rfl⟩
              split at read
              · cases read
              · next later left changed =>
                  cases read
                  have known := List.mem_of_find?_eq_some found
                  rcases sound field state _ _ _ known changed with
                    ⟨value, ⟨after, bytes, trailing, rfl, written⟩, holds⟩
                  have unseen : key ∉ seen := fun member =>
                    fresh (List.contains_iff_mem.mpr member)
                  exact ⟨before, after, bytes, value, leading, trailing, rfl, written,
                    .field found unseen holds⟩
  · next unknown =>
      split at read
      · cases read
      · next afterColon colon =>
          rcases readColon_sound colon with ⟨before, leading, rfl⟩
          split at read
          · cases read
          · next left skipped =>
              cases read
              rcases skips _ _ skipped with ⟨value, after, bytes, trailing, rfl, written⟩
              exact ⟨before, after, bytes, value, leading, trailing, rfl, written,
                .unknown unknown⟩

theorem readMember_settles
    (settles : forall field state gap bytes value rest, field ∈ fields -> Gap gap ->
      item bytes value -> Delimited rest ->
      Settles (allowed field state value) rest (field.read state (gap ++ (bytes ++ rest))))
    (skippable : forall bytes value, item bytes value ->
      bytes.length <= depth ∧ Exists fun other => ValueText .skip bytes other)
    (progress : State × List String) (quoted : Bytes) (key : String) (before after bytes : Bytes)
    (value : Item) (rest : Bytes) (spelled : Quoted .keep quoted key) (leading : Gap before)
    (trailing : Gap after) (element : item bytes value) (ends : Delimited rest) :
    Settles (FieldStep fields allowed progress (key, value)) rest
      (readMember .keep (readField fields depth) progress
        (quoted ++ ascii '"' :: (before ++ ascii ':' :: (after ++ (bytes ++ rest))))) := by
  rw [readMember, readText_append spelled]
  exact readField_settles settles skippable progress leading trailing element ends

theorem read_object (wanted : String) (defaults : State) {gap : Bytes} (separators : Gap gap)
    (inside : Bytes) :
    read wanted fields defaults (gap ++ ascii '\x7b' :: inside) =
      match readMembers .keep (readField fields inside.length) (defaults, []) inside with
      | .error fault => .error fault
      | .ok ((state, _), after) => .ok (state, after) := by
  have other : ascii '\x7b' ≠ ascii '[' := by decide
  rw [read, skipSeparators_stop separators (by decide)]
  exact (if_neg other).trans (if_pos rfl)

/-- What an object comes to when it is read as a record. -/
theorem read_object_settles (wanted : String) (defaults : State)
    (settles : forall field state gap bytes value rest, field ∈ fields -> Gap gap ->
      item bytes value -> Delimited rest ->
      Settles (allowed field state value) rest (field.read state (gap ++ (bytes ++ rest))))
    (skippable : forall bytes value, item bytes value ->
      Exists fun other => ValueText .skip bytes other)
    {gap bytes : Bytes} {members : List (String × Item)} (separators : Gap gap)
    (elements : Elements (Member .keep item) bytes members) (rest : Bytes) :
    Settles (fun result => Exists fun progress =>
        Along (FieldStep fields allowed) (defaults, []) members progress ∧
        result = progress.map Prod.fst)
      rest (read wanted fields defaults
        (gap ++ ascii '\x7b' :: (bytes ++ ascii '\x7d' :: rest))) := by
  have enough : bytes.length <= (bytes ++ ascii '\x7d' :: rest).length := by
    simp only [List.length_append, Nat.le_add_right]
  generalize size : (bytes ++ ascii '\x7d' :: rest).length = depth at enough
  have bounded : Elements (Member .keep fun part value => item part value ∧ part.length <= depth)
      bytes members :=
    (elements.bounded enough).mono fun _ _ _ member => member.1.bounded member.2
  have along : Settles (Along (FieldStep fields allowed) (defaults, []) members) rest
      (readMembers .keep (readField fields depth) (defaults, [])
        (bytes ++ ascii '\x7d' :: rest)) :=
    readMembers_settles (readMember_settles
      (fun field state gap bytes value rest known separators element =>
        settles field state gap bytes value rest known separators element.1)
      (fun bytes value element => ⟨element.2, skippable bytes value element.1⟩)) bounded _ rest
  apply along.map
  · intro fault failed
    rw [read_object wanted defaults separators, size, failed]
  · intro progress after finished
    rw [read_object wanted defaults separators, size, finished]
  · intro progress holds
    exact ⟨progress, holds, rfl⟩

/-- A record is read from an object of the grammar, or from a list. -/
theorem read_sound {wanted : String} {defaults final : State} {input rest : Bytes}
    (found : read wanted fields defaults input = .ok (final, rest))
    (sound : forall field state input later rest, field ∈ fields ->
      field.read state input = .ok (later, rest) ->
      Exists fun value => Stands item input value rest ∧ allowed field state value (.ok later))
    (skips : forall bytes value, ValueText .skip bytes value ->
      Exists fun found => item bytes found) :
    Exists fun gap => Gap gap ∧
      ((Exists fun bytes => Exists fun members => Exists fun seen =>
          input = gap ++ ascii '\x7b' :: (bytes ++ ascii '\x7d' :: rest) ∧
          Elements (Member .keep item) bytes members ∧
          Along (FieldStep fields allowed) (defaults, []) members (.ok (final, seen))) ∨
        (Exists fun inside => input = gap ++ ascii '[' :: inside ∧
          readItems fields true defaults inside = .ok (final, rest))) := by
  have skipping (depth : Nat) : forall input rest, skipValue depth input = .ok rest ->
      Exists fun value => Stands item input value rest := by
    intro input rest skipped
    rcases skipValue_sound skipped with ⟨value, gap, bytes, separators, split, written⟩
    rcases skips bytes value written with ⟨found, element⟩
    exact ⟨found, gap, bytes, separators, split, element⟩
  rw [read] at found
  split at found
  · cases found
  · next byte inside skipped =>
      rcases (skipSeparators_eq_cons_iff _ _ _).mp skipped with ⟨_, gap, separators, rfl⟩
      refine ⟨gap, separators, ?_⟩
      split at found
      · next list =>
          rw [list]
          exact .inr ⟨inside, rfl, found⟩
      split at found
      · next object =>
          split at found
          · cases found
          · next state seen after members =>
              cases found
              rcases readMembers_sound members fun _ _ _ _ _ => readField_sound sound (skipping _)
                with ⟨bytes, pairs, rfl, elements, along⟩
              rw [object]
              exact .inl ⟨bytes, pairs, seen, rfl, elements, along⟩
      · cases found

/-! ## Records in the form of lists -/

theorem closeList_sound {input rest : Bytes} (closed : closeList input = .ok rest) :
    Exists fun gap => Gap gap ∧ input = gap ++ ascii ']' :: rest := by
  unfold closeList at closed
  split at closed
  · cases closed
  · next byte inside skipped =>
      rcases (skipSeparators_eq_cons_iff _ _ _).mp skipped with ⟨_, gap, separators, rfl⟩
      split at closed
      · next closing =>
          cases closed
          rw [closing]
          exact ⟨gap, separators, rfl⟩
      split at closed
      · split at closed
        · cases closed
        · split at closed
          · cases closed
          · cases closed
      · cases closed

theorem closeList_gap {gap : Bytes} (separators : Gap gap) (rest : Bytes) :
    closeList (gap ++ ascii ']' :: rest) = .ok rest := by
  unfold closeList
  rw [skipSeparators_stop separators (by decide)]
  exact if_pos rfl

/-- The items of a list are read into the fields in their order.  The fields
for which no item is left are not read. -/
inductive InOrder (allowed : Field State -> State -> Item -> Except Cause State -> Prop) :
    List (Field State) -> State -> List Item -> State -> Prop
  | done {fields : List (Field State)} {state : State} : InOrder allowed fields state [] state
  | next {field : Field State} {fields : List (Field State)} {state later final : State}
      {item : Item} {items : List Item} :
      allowed field state item (.ok later) -> InOrder allowed fields later items final ->
      InOrder allowed (field :: fields) state (item :: items) final

theorem read_list (wanted : String) (defaults : State) {gap : Bytes} (separators : Gap gap)
    (inside : Bytes) :
    read wanted fields defaults (gap ++ ascii '[' :: inside) =
      readItems fields true defaults inside := by
  rw [read, skipSeparators_stop separators (by decide)]
  exact if_pos rfl

/-- A list whose items are read into the fields is read to its end. -/
theorem readItems_append
    (starts : forall bytes value, item bytes value -> Starts bytes)
    (exact : forall field state bytes value later rest, field ∈ fields -> item bytes value ->
      Delimited rest -> allowed field state value (.ok later) ->
      field.read state (bytes ++ rest) = .ok (later, rest))
    {first : Bool} {state final : State} {bytes : Bytes} {items : List Item}
    (run : Run item first bytes items) (inOrder : InOrder allowed fields state items final)
    (rest : Bytes) :
    readItems fields first state (bytes ++ ascii ']' :: rest) = .ok (final, rest) := by
  induction inOrder generalizing first bytes with
  | @done fields state =>
      cases run with
      | done separators =>
          cases fields with
          | nil => rw [readItems, closeList_gap separators]
          | cons field fields => rw [readItems, nextItem_close .keep first rest separators]
  | next holds _ inductionHypothesis =>
      cases run with
      | @more _ lead bytes others _ _ before element further =>
          have ends : Delimited (others ++ ascii ']' :: rest) := further.delimited (by decide)
          have changed := exact _ _ _ _ _ _ List.mem_cons_self element ends holds
          rcases starts _ _ element with ⟨byte, inner, rfl, notBlank, inside⟩
          have plain := not_separator_of_not_blank notBlank
          have remaining := inductionHypothesis (fun field state bytes value later rest known =>
            exact field state bytes value later rest (List.mem_cons_of_mem _ known)) further
          rw [List.append_assoc, List.append_assoc, List.cons_append, readItems,
            nextItem_element .keep _ before plain inside]
          simp only [← List.cons_append, changed, remaining]

/-- Only a list whose items are read into the fields is read to its end. -/
theorem readItems_sound {first : Bool} {state final : State} {input rest : Bytes}
    (found : readItems fields first state input = .ok (final, rest))
    (sound : forall field state input later rest, field ∈ fields ->
      field.read state input = .ok (later, rest) ->
      Exists fun value => Stands item input value rest ∧ allowed field state value (.ok later)) :
    Exists fun bytes => Exists fun items =>
      input = bytes ++ ascii ']' :: rest ∧ Run item first bytes items ∧
      InOrder allowed fields state items final := by
  induction fields generalizing first state input with
  | nil =>
      rw [readItems] at found
      split at found
      · cases found
      · next closed =>
          cases found
          rcases closeList_sound closed with ⟨gap, separators, split⟩
          exact ⟨gap, [], split, .done separators, .done⟩
  | cons field fields inductionHypothesis =>
      rw [readItems] at found
      split at found
      · cases found
      · next after decided =>
          cases found
          rcases nextItem_sound decided with ⟨gap, _, separators, split, same⟩ | ⟨_, _, _, _, no⟩
          · cases same
            exact ⟨gap, [], split, .done separators, .done⟩
          · cases no
      · next inside decided =>
          rcases nextItem_sound decided with ⟨_, _, _, _, no⟩ | ⟨lead, _, before, split, same⟩
          · cases no
          · cases same
            split at found
            · cases found
            · next later after changed =>
                rcases sound _ _ _ _ _ List.mem_cons_self changed with
                  ⟨value, ⟨gap, bytes, separators, inner, element⟩, holds⟩
                rcases inductionHypothesis found (fun field state input later rest known =>
                  sound field state input later rest (List.mem_cons_of_mem _ known)) with
                  ⟨others, items, closing, run, inOrder⟩
                refine ⟨(lead ++ gap) ++ (bytes ++ others), value :: items, ?_,
                  .more (before.append separators) element run, .next holds inOrder⟩
                rw [split, inner, closing]
                simp only [List.append_assoc]

end

end Record
end Json
end Salutation
