import Salutation.Proofs.Payload.Acceptance
import Salutation.Proofs.Json.Records

namespace Salutation
namespace Payload

open Json Json.Grammar

/-!
# The two ways of reading a payload

`Payload.parse` builds the value of the whole input and looks at it, while
`Payload.decode` goes through the input once and skips what it does not need.
The two are compared through the members of the object.  One reading sees
their values and the other one sees their bytes, and the steps of the second
one are carried along the members.  The readings differ in three ways only: a
repeated name, a value that can be skipped and not be kept, and a list.
-/

/-- How many members are called "name". -/
def nameCount {Item : Type} (members : List (String × Item)) : Nat :=
  members.countP fun pair => pair.1 == "name"

/-! ## Steps of the record -/

section

variable {Item : Type}
variable {allowed : Json.Field Payload -> Payload -> Item -> Except Cause Payload -> Prop}

theorem find_name (key : String) :
    [nameField].find? (fun field => field.name == key) =
      if key = "name" then some nameField else none := by
  by_cases same : key = "name"
  · rw [if_pos same, same]
    rfl
  · have different : (nameField.name == key) = false := by
      rw [beq_eq_false_iff_ne]
      exact fun equal => same equal.symm
    rw [if_neg same]
    simp only [List.find?, different]

/-- A member of another name changes nothing. -/
theorem step_other {progress : Payload × List String} {key : String} {item : Item}
    {result : Except Cause (Payload × List String)} (different : key ≠ "name")
    (step : Record.FieldStep [nameField] allowed progress (key, item) result) :
    result = .ok progress := by
  have unknown := find_name key
  rw [if_neg different] at unknown
  cases step with
  | unknown _ => rfl
  | repeated found _ =>
      rw [unknown] at found
      cases found
  | field found _ _ =>
      rw [unknown] at found
      cases found

/-- A second name ends the reading. -/
theorem step_repeated {payload : Payload} {item : Item}
    {result : Except Cause (Payload × List String)}
    (step : Record.FieldStep [nameField] allowed (payload, ["name"]) ("name", item) result) :
    result = .error (.repeatedField "name") := by
  cases step with
  | unknown found => cases found
  | repeated _ _ => rfl
  | field _ unseen _ => exact absurd List.mem_cons_self unseen

/-- The first name is read. -/
theorem step_name {payload : Payload} {item : Item} {result : Except Cause (Payload × List String)}
    (step : Record.FieldStep [nameField] allowed (payload, []) ("name", item) result) :
    Exists fun outcome => allowed nameField payload item outcome ∧
      result = outcome.map fun later => (later, ["name"]) := by
  cases step with
  | unknown found => cases found
  | repeated _ seen => exact absurd seen List.not_mem_nil
  | field found _ holds =>
      cases found
      exact ⟨_, holds, rfl⟩

theorem nameCount_cons_name (item : Item) (members : List (String × Item)) :
    nameCount (("name", item) :: members) = nameCount members + 1 :=
  List.countP_cons_of_pos rfl

theorem nameCount_cons_other {key : String} (item : Item) (members : List (String × Item))
    (different : key ≠ "name") : nameCount ((key, item) :: members) = nameCount members :=
  List.countP_cons_of_neg (by simpa using different)

/-- After a name, the payload stays as it is until a second name comes. -/
theorem along_seen {payload : Payload} {members : List (String × Item)}
    {result : Except Cause (Payload × List String)}
    (along : Along (Record.FieldStep [nameField] allowed) (payload, ["name"]) members result) :
    (nameCount members = 0 ∧ result = .ok (payload, ["name"])) ∨
      (0 < nameCount members ∧ result = .error (.repeatedField "name")) := by
  induction members with
  | nil =>
      cases along with
      | done => exact .inl ⟨rfl, rfl⟩
  | cons pair members inductionHypothesis =>
      rcases pair with ⟨key, item⟩
      by_cases same : key = "name"
      · rw [same] at along ⊢
        rw [nameCount_cons_name]
        cases along with
        | next step _ => cases step_repeated step
        | refused step => exact .inr ⟨Nat.succ_pos _, step_repeated step⟩
      · rw [nameCount_cons_other item members same]
        cases along with
        | next step further =>
            cases step_other same step
            exact inductionHypothesis further
        | refused step => cases step_other same step

/-- A name that was read was allowed to be read. -/
theorem along_name_allowed {progress final : Payload × List String}
    {members : List (String × Item)}
    (along : Along (Record.FieldStep [nameField] allowed) progress members (.ok final))
    {item : Item} (member : ("name", item) ∈ members) :
    Exists fun payload => Exists fun later => allowed nameField payload item (.ok later) := by
  induction members generalizing progress with
  | nil => exact absurd member List.not_mem_nil
  | cons pair members inductionHypothesis =>
      cases along with
      | next step further =>
          rcases List.mem_cons.mp member with rfl | member
          · generalize same : Except.ok _ = result at step
            cases step with
            | unknown found => cases found
            | repeated _ _ => cases same
            | @field payload _ _ _ _ outcome found _ holds =>
                cases found
                cases outcome with
                | error cause => cases same
                | ok later => exact ⟨payload, later, holds⟩
          · exact inductionHypothesis further member

end

/-! ## The payload of an object -/

theorem ofMembers_cons_other {key : String} (value : Value) (members : List (String × Value))
    (different : key ≠ "name") : ofMembers ((key, value) :: members) = ofMembers members := by
  have unequal : (key == nameKey) = false := beq_eq_false_iff_ne.mpr different
  have same : lookupLast nameKey ((key, value) :: members) = lookupLast nameKey members := by
    simp only [lookupLast, List.reverse_cons, List.find?_append, List.find?_cons, unequal,
      List.find?_nil, Option.or_none]
  rw [ofMembers, same, ofMembers]

theorem ofMembers_cons_name (value : Value) {members : List (String × Value)}
    (last : nameCount members = 0) :
    ofMembers (("name", value) :: members) = ⟨value.text?⟩ := by
  have found : lookupLast nameKey (("name", value) :: members) = some value := by
    rw [lookupLast_eq_some_iff]
    refine ⟨[], members, rfl, ?_⟩
    intro pair member same
    have different := List.countP_eq_zero.mp last pair member
    exact different (beq_iff_eq.mpr same)
  rw [ofMembers, found]
  rfl

/-- A name that is read exactly. -/
def ReadsName (_ : Json.Field Payload) (_ : Payload) (value : Value)
    (result : Except Cause Payload) : Prop :=
  result = .ok ⟨value.text?⟩

/-- Values that can be kept give the payload of the object, unless there are
two names among them. -/
theorem along_kept {members : List (String × Value)}
    {result : Except Cause (Payload × List String)}
    (along : Along (Record.FieldStep [nameField] ReadsName) (anonymous, []) members result) :
    (nameCount members < 2 ∧ result.map Prod.fst = .ok (ofMembers members)) ∨
      (2 <= nameCount members ∧ result = .error (.repeatedField "name")) := by
  induction members with
  | nil =>
      cases along with
      | done => exact .inl ⟨Nat.zero_lt_two, rfl⟩
  | cons pair members inductionHypothesis =>
      rcases pair with ⟨key, value⟩
      by_cases same : key = "name"
      · rw [same] at along ⊢
        rw [nameCount_cons_name]
        cases along with
        | next step further =>
            rcases step_name step with ⟨_, rfl, equal⟩
            cases equal
            rcases along_seen further with ⟨last, rfl⟩ | ⟨again, rfl⟩
            · refine .inl ⟨by omega, ?_⟩
              rw [ofMembers_cons_name value last]
              rfl
            · exact .inr ⟨by omega, rfl⟩
        | refused step =>
            rcases step_name step with ⟨_, rfl, impossible⟩
            cases impossible
      · rw [nameCount_cons_other value members same, ofMembers_cons_other value members same]
        cases along with
        | next step further =>
            cases step_other same step
            exact inductionHypothesis further
        | refused step => cases step_other same step

/-- The reader of the name reads every value that is kept inside a container. -/
theorem nameField_settles (field : Json.Field Payload) (payload : Payload) (gap bytes : Bytes)
    (value : Value) (rest : Bytes) (known : field ∈ [nameField]) (separators : Gap gap)
    (written : ValueText .keep bytes value ∧ value.nesting <= depthLimit - 1)
    (ends : Delimited rest) :
    Settles (ReadsName field payload value) rest (field.read payload (gap ++ (bytes ++ rest))) := by
  rw [List.mem_singleton] at known
  rw [known]
  have read := readValue_append separators written.1 written.2 fun _ _ => ends
  simp only [nameField, read]
  exact .read rfl

/-- What the record makes of an object that is a payload. -/
theorem decode_of_readable {input : Bytes} {members : List (String × Value)}
    (readable : Readable input (.object members)) :
    (nameCount members < 2 ∧ decode input = .ok (ofMembers members)) ∨
      (2 <= nameCount members ∧ Exists fun position =>
        decode input = .error ⟨.repeatedField "name", position⟩) := by
  rcases readable with ⟨⟨before, written, after⟩, shallow⟩
  cases written with
  | object elements =>
      have within := (nestingOfMembers_le_iff members (depthLimit - 1)).mp
        (Nat.le_of_succ_le_succ shallow)
      have kept : Elements (Member .keep fun bytes value =>
          ValueText .keep bytes value ∧ value.nesting <= depthLimit - 1) _ members :=
        elements.mono fun _ pair member element =>
          element.mono fun _ value => ⟨value, within pair member⟩
      have settles := Record.read_object_settles "struct GreetingRequest" anonymous
        nameField_settles (fun _ _ element => element.1.skipped) before kept
      simp only [List.append_assoc, List.cons_append, List.nil_append]
      rcases (settles_iff _ _ _).mp (settles _) with
        ⟨payload, read, progress, along, same⟩ | ⟨fault, read, progress, along, same⟩
      · rcases along_kept along with ⟨few, found⟩ | ⟨_, rfl⟩
        · rw [← same, Except.ok.injEq] at found
          refine .inl ⟨few, (readAll_eq_ok_iff _ _ _).mpr ⟨_, ?_, after⟩⟩
          rw [← found]
          exact read
        · cases same
      · rcases along_kept along with ⟨_, found⟩ | ⟨many, rfl⟩
        · rw [← same] at found
          cases found
        · have cause : fault.cause = .repeatedField "name" := Except.error.inj same
          refine .inr ⟨many, ?_⟩
          rw [← cause]
          exact ⟨_, readAll_of_error read⟩

/-! ## From the record to the value -/

/-- The bytes of a value that can be skipped. -/
def Skippable (bytes raw : Bytes) : Prop :=
  raw = bytes ∧ Exists fun value => ValueText .skip bytes value

/-- The bytes of a value that can be built inside a container. -/
def Buildable (raw : Bytes) : Prop :=
  Exists fun value => ValueText .keep raw value ∧ value.nesting <= 126

/-- A name that is built from the bytes of its value. -/
def BuildsName (_ : Json.Field Payload) (_ : Payload) (raw : Bytes)
    (result : Except Cause Payload) : Prop :=
  Exists fun value => ValueText .keep raw value ∧ value.nesting <= 126 ∧
    result = .ok ⟨value.text?⟩

/-- The name is read by building the value that stands next. -/
theorem nameField_kept (field : Json.Field Payload) (payload : Payload) (input : Bytes)
    (later : Payload) (rest : Bytes) (known : field ∈ [nameField])
    (read : field.read payload input = .ok (later, rest)) :
    Exists fun value =>
      Stands (fun bytes value => ValueText .keep bytes value ∧ value.nesting <= 126)
        input value rest ∧ ReadsName field payload value (.ok later) := by
  rw [List.mem_singleton] at known
  rw [known] at read
  simp only [nameField] at read
  split at read
  · cases read
  · next value after found =>
      cases read
      rcases readValue_sound found with ⟨⟨gap, bytes, separators, split, written⟩, shallow⟩
      exact ⟨value, ⟨gap, bytes, separators, split, written, shallow⟩, rfl⟩

theorem nameField_sound (field : Json.Field Payload) (payload : Payload) (input : Bytes)
    (later : Payload) (rest : Bytes) (known : field ∈ [nameField])
    (read : field.read payload input = .ok (later, rest)) :
    Exists fun raw =>
      Stands Skippable input raw rest ∧ BuildsName field payload raw (.ok later) := by
  rcases nameField_kept field payload input later rest known read with
    ⟨value, ⟨gap, bytes, separators, split, written, shallow⟩, same⟩
  exact ⟨bytes, ⟨gap, bytes, separators, split, rfl, written.skipped⟩, value, written, shallow,
    same⟩

/-- A value that can be skipped and not be built is refused for its nesting,
for a number or for a text in it. -/
theorem refused_of_not_buildable {raw : Bytes} {value : Value}
    (written : ValueText .skip raw value) (unbuilt : ¬ Buildable raw) :
    Exists fun fault => readValue .keep 126 raw = .error fault ∧ Limit fault.cause := by
  have settles := readValue_lenient 126 gap_nil written fun _ _ => delimited_nil
  rw [List.nil_append, List.append_nil] at settles
  rcases (settles_iff _ _ _).mp settles with ⟨found, read, _⟩ | ⟨fault, refused, lenient⟩
  · rcases readValue_sound read with ⟨⟨gap, bytes, separators, split, kept⟩, shallow⟩
    rw [split] at written unbuilt
    rw [written.gap_eq_nil separators, List.nil_append, List.append_nil] at unbuilt
    exact absurd ⟨found, kept, shallow⟩ unbuilt
  · exact ⟨fault, refused, lenient _ rfl⟩

/-- A value that is skipped in its whole length. -/
theorem skipValue_whole {raw : Bytes} {value : Value} (written : ValueText .skip raw value) :
    skipValue raw.length raw = .ok [] := by
  have skipped := skipValue_append gap_nil written (Nat.le_refl _) delimited_nil
  rwa [List.nil_append, List.append_nil] at skipped

/-- An object whose values can all be built is a value of the grammar. -/
theorem readable_of_buildable {before bytes after : Bytes} {raws : List (String × Bytes)}
    (leading : Gap before) (elements : Elements (Member .keep Skippable) bytes raws)
    (trailing : Gap after) (built : forall pair, pair ∈ raws -> Buildable pair.2) :
    Exists fun members =>
      Readable (before ++ ascii '\x7b' :: (bytes ++ ascii '\x7d' :: after)) (.object members) := by
  have replaces : forall bytes (pair : String × Bytes), pair ∈ raws ->
      Member .keep Skippable bytes pair ->
      Exists fun found => Member .keep (fun bytes value =>
        ValueText .keep bytes value ∧ value.nesting <= 126) bytes found := by
    intro bytes pair member written
    have buildable := built pair member
    cases written with
    | pair name before after skippable =>
        rcases buildable with ⟨value, kept, shallow⟩
        rw [skippable.1] at kept
        exact ⟨_, .pair name before after ⟨kept, shallow⟩⟩
  rcases elements.replace replaces with ⟨members, others⟩
  have shallow := others.nestingOfMembers_le fun _ _ value => value.2
  have written : ValueText .keep (ascii '\x7b' :: (bytes ++ [ascii '\x7d'])) (.object members) :=
    .object (others.mono fun _ _ _ member => member.mono fun _ value => value.1)
  refine ⟨members, ?_, Nat.succ_le_succ shallow⟩
  have document := Document.value leading written trailing
  simpa only [List.append_assoc, List.cons_append, List.nil_append] using document

/-- The record is read from an object, member by member, or from a list. -/
theorem decode_sound {input : Bytes} {payload : Payload} (decoded : decode input = .ok payload) :
    Exists fun gap => Exists fun after => Gap gap ∧ Gap after ∧
      ((Exists fun bytes => Exists fun members => Exists fun seen =>
          input = gap ++ ascii '\x7b' :: (bytes ++ ascii '\x7d' :: after) ∧
          Elements (Member .keep Skippable) bytes members ∧
          Along (Record.FieldStep [nameField] BuildsName) (anonymous, []) members
            (.ok (payload, seen))) ∨
        (Exists fun inside => input = gap ++ ascii '[' :: inside ∧
          Record.readItems [nameField] true anonymous inside = .ok (payload, after))) := by
  rcases (readAll_eq_ok_iff _ _ _).mp decoded with ⟨after, read, trailing⟩
  have skips : forall bytes value, ValueText .skip bytes value ->
      Exists fun raw => Skippable bytes raw :=
    fun bytes value written => ⟨bytes, rfl, value, written⟩
  rcases Record.read_sound read nameField_sound skips with ⟨gap, leading, found⟩
  exact ⟨gap, after, leading, trailing, found⟩

/-- A list of the record has at most one item, the name. -/
theorem readItems_sound {inside after : Bytes} {payload : Payload}
    (read : Record.readItems [nameField] true anonymous inside = .ok (payload, after)) :
    Exists fun bytes => Exists fun items => inside = bytes ++ ascii ']' :: after ∧
      Elements (ValueText .keep) bytes items ∧ Value.nestingOfItems items <= 126 ∧
      items.length <= 1 ∧ payload.name = items.head?.bind Value.text? := by
  rcases Record.readItems_sound read nameField_kept with ⟨bytes, items, split, run, inOrder⟩
  have elements := (run_true_iff _ _).mp run
  have kept := elements.mono fun bytes value _ written => And.left written
  have shallow := elements.nestingOfItems_le fun bytes value => And.right
  cases inOrder with
  | done => exact ⟨bytes, [], split, kept, shallow, Nat.zero_le _, rfl⟩
  | next same others =>
      cases same
      cases others
      exact ⟨bytes, _, split, kept, shallow, Nat.le_refl _, rfl⟩

/-- A member other than the name has a value that can be skipped, and that is
refused when it is built. -/
def HasUnbuildable (input : Bytes) : Prop :=
  Exists fun gap => Exists fun bytes => Exists fun after => Exists fun members =>
    Gap gap ∧ Gap after ∧ input = gap ++ ascii '\x7b' :: (bytes ++ ascii '\x7d' :: after) ∧
    Elements (Member .keep Skippable) bytes members ∧
    Exists fun key => Exists fun raw => (key, raw) ∈ members ∧ key ≠ "name" ∧
      skipValue raw.length raw = .ok [] ∧
      Exists fun fault => readValue .keep 126 raw = .error fault ∧ Limit fault.cause

/-- When the record has a payload and no value can be built, it is the value of
another member that cannot be built. -/
theorem hasUnbuildable_of_unreadable {gap inside : Bytes} {payload : Payload} (leading : Gap gap)
    (decoded : decode (gap ++ ascii '\x7b' :: inside) = .ok payload)
    (unreadable : forall value, ¬ Readable (gap ++ ascii '\x7b' :: inside) value) :
    HasUnbuildable (gap ++ ascii '\x7b' :: inside) := by
  rcases decode_sound decoded with
    ⟨before, after, separators, trailing, ⟨bytes, members, seen, split, elements, along⟩ |
      ⟨_, split, _⟩⟩
  · by_cases built : forall pair, pair ∈ members -> Buildable pair.2
    · rcases readable_of_buildable separators elements trailing built with ⟨values, readable⟩
      rw [← split] at readable
      exact absurd readable (unreadable _)
    · simp only [Classical.not_forall] at built
      rcases built with ⟨⟨key, raw⟩, member, unbuilt⟩
      have different : key ≠ "name" := by
        rintro rfl
        rcases along_name_allowed along member with ⟨_, _, value, written, shallow, _⟩
        exact unbuilt ⟨value, written, shallow⟩
      rcases elements.exists_of_mem member with ⟨_, written⟩
      rcases written.exists_value with ⟨_, rfl, value, skippable⟩
      exact ⟨before, bytes, after, members, separators, trailing, split, elements, key, raw, member,
        different, skipValue_whole skippable, refused_of_not_buildable skippable unbuilt⟩
  · have different := first_after_gap leading separators (by decide) (by decide) split
    exact absurd different.1 (by decide)

theorem eq_of_parsed_of_decoded {input : Bytes} {first second : Payload}
    (parsed : parse input = .ok first) (decoded : decode input = .ok second) :
    first = second := by
  rcases (parse_eq_ok_iff _ _).mp parsed with ⟨members, readable, rfl⟩
  rcases decode_of_readable readable with ⟨_, same⟩ | ⟨_, position, refused⟩
  · rw [decoded, Except.ok.injEq] at same
    exact same.symm
  · rw [decoded] at refused
    cases refused

/-- A payload that the record gives is parsed as well, or one of its members
cannot be built. -/
theorem parse_of_decoded_object {gap inside : Bytes} {payload : Payload} (leading : Gap gap)
    (decoded : decode (gap ++ ascii '\x7b' :: inside) = .ok payload) :
    parse (gap ++ ascii '\x7b' :: inside) = .ok payload ∨
      ((Exists fun complaint =>
          parse (gap ++ ascii '\x7b' :: inside) = .error (.notJson complaint)) ∧
        HasUnbuildable (gap ++ ascii '\x7b' :: inside)) := by
  cases parsed : parse (gap ++ ascii '\x7b' :: inside) with
  | ok other =>
      rw [eq_of_parsed_of_decoded parsed decoded]
      exact .inl rfl
  | error refusal =>
      cases refusal with
      | empty =>
          have blank := (parse_eq_empty_iff _).mp parsed (ascii '\x7b') (by simp)
          exact absurd blank (by decide)
      | notObject =>
          rcases (parse_eq_notObject_iff _).mp parsed with ⟨value, readable, other⟩
          rcases readable.object leading with ⟨members, same⟩
          exact absurd same (other members)
      | notJson complaint =>
          have unreadable := ((parse_eq_notJson_iff _).mp ⟨complaint, parsed⟩).1
          exact .inr ⟨⟨complaint, rfl⟩, hasUnbuildable_of_unreadable leading decoded unreadable⟩

/-- A list that the record takes is no object, and its only item is the name. -/
theorem parse_of_decoded_list {gap inside : Bytes} {payload : Payload} (leading : Gap gap)
    (decoded : decode (gap ++ ascii '[' :: inside) = .ok payload) :
    parse (gap ++ ascii '[' :: inside) = .error .notObject ∧
      Exists fun items => Readable (gap ++ ascii '[' :: inside) (.list items) ∧
        items.length <= 1 ∧ payload.name = items.head?.bind Value.text? := by
  rcases decode_sound decoded with
    ⟨before, after, separators, trailing, ⟨_, _, _, split, _⟩ | ⟨rest, split, read⟩⟩
  · have different := first_after_gap leading separators (by decide) (by decide) split
    exact absurd different.1 (by decide)
  · rcases readItems_sound read with ⟨bytes, items, rfl, elements, shallow, few, named⟩
    have readable : Readable (gap ++ ascii '[' :: inside) (.list items) := by
      refine ⟨?_, Nat.succ_le_succ shallow⟩
      have document := Document.value separators (.list elements) trailing
      rw [split]
      simpa only [List.append_assoc, List.cons_append, List.nil_append] using document
    have other : forall members, Value.list items ≠ .object members := by
      intro members same
      cases same
    exact ⟨(parse_eq_notObject_iff _).mpr ⟨_, readable, other⟩, items, readable, few, named⟩

/-- The two ways of reading a payload agree wherever both succeed.  The record
takes every payload that is parsed, unless it has two names.  What the record
takes as an object is parsed to the same payload, unless the value of another
member can be skipped but not be built.  What it takes as a list is not an
object. -/
theorem readings_agree (input : Bytes) :
    (forall first second, parse input = .ok first -> decode input = .ok second ->
      first = second) ∧
    (forall payload, parse input = .ok payload ->
      Exists fun members => Readable input (.object members) ∧
        ((nameCount members < 2 ∧ decode input = .ok payload) ∨
          (2 <= nameCount members ∧ Exists fun position =>
            decode input = .error ⟨.repeatedField "name", position⟩))) ∧
    (forall gap inside payload, Gap gap -> input = gap ++ ascii '\x7b' :: inside ->
      decode input = .ok payload ->
      parse input = .ok payload ∨
        ((Exists fun complaint => parse input = .error (.notJson complaint)) ∧
          HasUnbuildable input)) ∧
    (forall gap inside payload, Gap gap -> input = gap ++ ascii '[' :: inside ->
      decode input = .ok payload ->
      parse input = .error .notObject ∧
        Exists fun items => Readable input (.list items) ∧ items.length <= 1 ∧
          payload.name = items.head?.bind Value.text?) := by
  refine ⟨fun first second => eq_of_parsed_of_decoded, ?_, ?_, ?_⟩
  · intro payload parsed
    rcases (parse_eq_ok_iff _ _).mp parsed with ⟨members, readable, rfl⟩
    exact ⟨members, readable, decode_of_readable readable⟩
  · rintro gap inside payload leading rfl decoded
    exact parse_of_decoded_object leading decoded
  · rintro gap inside payload leading rfl decoded
    exact parse_of_decoded_list leading decoded

/-- A lone surrogate is such a value. -/
theorem hasUnbuildable_lone_surrogate :
    HasUnbuildable (Bytes.ofText "\x7b\"a\":\"\\ud800\"\x7d") := by
  have objects := (readings_agree (Bytes.ofText "\x7b\"a\":\"\\ud800\"\x7d")).2.2.1
  rcases objects [] (Bytes.ofText "\"a\":\"\\ud800\"\x7d") anonymous gap_nil rfl rfl with
    parsed | ⟨_, unbuildable⟩
  · cases parsed
  · exact unbuildable

end Payload
end Salutation
