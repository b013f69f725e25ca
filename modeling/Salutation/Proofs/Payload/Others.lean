import Mathlib.Data.List.Forall2
import Salutation.Proofs.Json.Fields
import Salutation.Proofs.Payload.Readings

namespace Salutation
namespace Payload

open Json Json.Grammar

/-!
# What the other members have to say

Nobody needs the values of members that are not called "name".  The record
skips them, and what it comes to depends on the names alone.  `Payload.parse`
builds them before it looks at any name.  When all of them can be built, they
make no difference either.  When one of them cannot, the whole input is
refused, however good its name.

Objects are therefore described by the bytes of the values in them.
-/

/-- An object with the bytes of all the values in it. -/
inductive ObjectText : Bytes -> List (String × Bytes) -> Prop
  | object {before inside after : Bytes} {members : List (String × Bytes)} :
      Gap before -> Elements (Member .keep Skippable) inside members -> Gap after ->
      ObjectText (before ++ ascii '\x7b' :: (inside ++ ascii '\x7d' :: after)) members

/-- A value that is built from its bytes inside a container. -/
def Builds (raw : Bytes) (value : Value) : Prop :=
  ValueText .keep raw value ∧ value.nesting <= 126

theorem Builds.unique {raw : Bytes} {first second : Value} (built : Builds raw first)
    (other : Builds raw second) : first = second := by
  have same := built.1.eq_of_append_eq other.1 gap_nil gap_nil (fun _ _ => delimited_nil)
    (fun _ _ => delimited_nil) rfl
  exact same.1

/-! ## One value -/

theorem readValue_gap (purpose : Purpose) (depth : Nat) {gap : Bytes} (separators : Gap gap)
    (input : Bytes) : readValue purpose depth (gap ++ input) = readValue purpose depth input := by
  cases depth with
  | zero => simp only [readValue, readWith, skipSeparators_append separators]
  | succ depth => simp only [readValue, readWith, skipSeparators_append separators]

/-- A value that can be skipped is built exactly if it can be, and otherwise
refused for a limit. -/
theorem readValue_raw {gap bytes raw rest : Bytes} (separators : Gap gap)
    (written : Skippable bytes raw) (ends : Delimited rest) :
    Settles (fun result => Lenient result ∧ Reads Builds raw result) rest
      (readValue .keep 126 (gap ++ (bytes ++ rest))) := by
  rcases written with ⟨rfl, value, skipped⟩
  have settles := readValue_lenient 126 separators skipped fun _ _ => ends
  apply settles.reads
  · intro found built
    exact readValue_append separators built.1 built.2 fun _ _ => ends
  · intro found read
    rw [readValue_gap .keep 126 separators] at read
    rcases readValue_sound read with ⟨⟨between, bytes, leading, split, kept⟩, shallow⟩
    rw [← List.append_assoc] at split
    have same := List.append_cancel_right split
    rw [same] at skipped ⊢
    rw [skipped.gap_eq_nil leading]
    exact ⟨kept, shallow⟩

/-! ## All values -/

/-- One more member for those built. -/
def BuildsMember (built : List (String × Value)) (pair : String × Bytes)
    (result : Except Cause (List (String × Value))) : Prop :=
  Exists fun outcome => (Lenient outcome ∧ Reads Builds pair.2 outcome) ∧
    result = outcome.map fun value => (pair.1, value) :: built

theorem readMember_raw (built : List (String × Value)) (quoted : Bytes) (key : String)
    (before after bytes raw rest : Bytes) (spelled : Quoted .keep quoted key) (leading : Gap before)
    (trailing : Gap after) (element : Skippable bytes raw) (ends : Delimited rest) :
    Settles (BuildsMember built (key, raw)) rest
      (readMember .keep (readValueMember (readValue .keep 126)) built
        (quoted ++ ascii '"' :: (before ++ ascii ':' :: (after ++ (bytes ++ rest))))) := by
  simp only [readMember, readText_append spelled, readValueMember, readColon_append _ leading]
  apply (readValue_raw trailing element ends).map
  · intro fault refused
    rw [refused]
  · intro value after read
    rw [read]
  · intro result holds
    exact ⟨result, holds, rfl⟩

/-- Members are all built, or one of them that cannot be ends the reading. -/
theorem along_built {built : List (String × Value)} {members : List (String × Bytes)}
    {result : Except Cause (List (String × Value))}
    (along : Along BuildsMember built members result) :
    (Exists fun values => result = .ok (values.reverse ++ built) ∧
      List.Forall₂ (fun pair found => pair.1 = found.1 ∧ Builds pair.2 found.2) members values) ∨
    (Exists fun cause => result = .error cause ∧ Limit cause ∧
      Exists fun pair => pair ∈ members ∧ ¬ Buildable pair.2) := by
  induction along with
  | done => exact .inl ⟨[], rfl, .nil⟩
  | @next built _ pair _ _ step _ inductionHypothesis =>
      rcases step with ⟨outcome, ⟨_, reads⟩, same⟩
      cases outcome with
      | error cause => cases same
      | ok value =>
          cases same
          rcases inductionHypothesis with
            ⟨values, rfl, built⟩ | ⟨cause, rfl, limit, other, member, no⟩
          · refine .inl ⟨(pair.1, value) :: values, ?_, .cons ⟨rfl, (reads value).mp rfl⟩ built⟩
            rw [List.reverse_cons, List.append_assoc, List.singleton_append]
          · exact .inr ⟨cause, rfl, limit, other, List.mem_cons_of_mem _ member, no⟩
  | @refused _ pair _ _ step =>
      rcases step with ⟨outcome, ⟨lenient, reads⟩, same⟩
      cases outcome with
      | ok value => cases same
      | error cause =>
          cases same
          refine .inr ⟨_, rfl, lenient _ rfl, pair, List.mem_cons_self, ?_⟩
          rintro ⟨value, built⟩
          exact (reads_error_iff _ _ _).mp reads value built

/-- The value of an object is built from all its members, or refused for the
value of one of them. -/
theorem parse_members {input : Bytes} {members : List (String × Bytes)}
    (written : ObjectText input members) :
    (Exists fun values => Json.parse input = .ok (.object values) ∧
      List.Forall₂ (fun pair found => pair.1 = found.1 ∧ Builds pair.2 found.2) members values) ∨
    (Exists fun complaint => Json.parse input = .error complaint ∧ Limit complaint.cause ∧
      Exists fun pair => pair ∈ members ∧ ¬ Buildable pair.2) := by
  cases written with
  | @object before inside after _ leading elements trailing =>
      have settles := readMembers_settles readMember_raw elements [] after
      have opened : readValue .keep depthLimit _ = _ :=
        readValue_object 126 leading (inside ++ ascii '\x7d' :: after)
      rcases (settles_iff _ _ _).mp settles with ⟨final, read, along⟩ | ⟨fault, refused, along⟩
      · rcases along_built along with ⟨values, same, built⟩ | ⟨_, impossible, _⟩
        · rw [List.append_nil, Except.ok.injEq] at same
          rw [read, same] at opened
          simp only [List.reverse_reverse] at opened
          exact .inl ⟨values, (readAll_eq_ok_iff _ _ _).mpr ⟨after, opened, trailing⟩, built⟩
        · cases impossible
      · rcases along_built along with ⟨_, impossible, _⟩ | ⟨cause, same, limit, unbuilt⟩
        · cases impossible
        · rw [refused] at opened
          rw [Except.error.injEq] at same
          rw [← same] at limit
          exact .inr ⟨_, readAll_of_error opened, limit, unbuilt⟩

theorem ObjectText.not_blank {input : Bytes} {members : List (String × Bytes)}
    (written : ObjectText input members) : Exists fun byte => byte ∈ input ∧ byte ∉ blanks := by
  cases written with
  | object _ _ _ =>
      exact ⟨ascii '\x7b', List.mem_append_right _ List.mem_cons_self, by decide⟩

/-! ## The names alone -/

/-- The last member of a name is looked up. -/
theorem lookupLast_eq (key : String) (members : List (String × Value)) :
    lookupLast key members = (valuesOf key members).getLast? := by
  rw [lookupLast, valuesOf, List.getLast?_map, ← List.head?_reverse, ← List.filter_reverse,
    List.head?_filter]

theorem ofMembers_eq (members : List (String × Value)) :
    ofMembers members = ⟨(valuesOf "name" members).getLast?.bind Value.text?⟩ := by
  rw [ofMembers, nameKey, lookupLast_eq]

/-- The values that are built for a name are built from the values of that
name. -/
theorem valuesOf_built (name : String) {members : List (String × Bytes)}
    {values : List (String × Value)}
    (built : List.Forall₂ (fun pair found => pair.1 = found.1 ∧ Builds pair.2 found.2)
      members values) :
    List.Forall₂ Builds (valuesOf name members) (valuesOf name values) := by
  induction built with
  | nil => exact .nil
  | @cons pair found members values here _ inductionHypothesis =>
      rcases pair with ⟨key, raw⟩
      rcases found with ⟨other, value⟩
      rcases here with ⟨rfl, builds⟩
      by_cases same : key = name
      · cases same
        rw [valuesOf_same, valuesOf_same]
        exact .cons builds inductionHypothesis
      · rw [valuesOf_other same, valuesOf_other same]
        exact inductionHypothesis

theorem built_unique {raws : List Bytes} {first second : List Value}
    (built : List.Forall₂ Builds raws first) (other : List.Forall₂ Builds raws second) :
    first = second := by
  have unique : Relator.RightUnique Builds := fun _ _ _ => Builds.unique
  exact List.right_unique_forall₂' unique built other

/-- What is built last is built from the last of the bytes. -/
theorem getLast?_built {raws : List Bytes} {raw : Bytes} {values : List Value}
    (built : List.Forall₂ Builds (raws ++ [raw]) values) :
    Exists fun value => values.getLast? = some value ∧ Builds raw value := by
  induction raws generalizing values with
  | nil =>
      cases built with
      | cons builds none =>
          cases none
          exact ⟨_, rfl, builds⟩
  | cons first raws inductionHypothesis =>
      cases built with
      | cons _ others =>
          rcases inductionHypothesis others with ⟨value, last, builds⟩
          refine ⟨value, ?_, builds⟩
          rw [List.getLast?_cons, last]
          rfl

theorem builds_text {raw : Bytes} {text : String} (spelled : TextText .keep raw text) :
    Builds raw (.scalar (.text text)) :=
  ⟨.scalar (.text spelled), Nat.zero_le _⟩

theorem buildable_of_built {members : List (String × Bytes)} {values : List (String × Value)}
    (built : List.Forall₂ (fun pair found => pair.1 = found.1 ∧ Builds pair.2 found.2)
      members values) {pair : String × Bytes} (member : pair ∈ members) : Buildable pair.2 := by
  induction built with
  | nil => exact absurd member List.not_mem_nil
  | cons here _ inductionHypothesis =>
      rcases List.mem_cons.mp member with rfl | member
      · exact ⟨_, here.2⟩
      · exact inductionHypothesis member

/-- An object whose values can all be built is parsed to the payload of its
names. -/
theorem parse_of_buildable {input : Bytes} {members : List (String × Bytes)}
    (written : ObjectText input members) (built : forall pair, pair ∈ members -> Buildable pair.2) :
    Exists fun values => List.Forall₂ Builds (valuesOf "name" members) values ∧
      parse input = .ok ⟨values.getLast?.bind Value.text?⟩ := by
  rcases parse_members written with ⟨values, parsed, found⟩ | ⟨_, _, _, pair, member, unbuilt⟩
  · refine ⟨_, valuesOf_built "name" found, ?_⟩
    rw [parse_of_not_blank written.not_blank, parsed, ← ofMembers_eq]
  · exact absurd (built pair member) unbuilt

/-- An object with a value that cannot be built is refused for a limit. -/
theorem parse_of_not_buildable {input : Bytes} {members : List (String × Bytes)}
    (written : ObjectText input members) {pair : String × Bytes} (member : pair ∈ members)
    (unbuilt : ¬ Buildable pair.2) :
    Exists fun complaint => parse input = .error (.notJson complaint) ∧ Limit complaint.cause := by
  rcases parse_members written with ⟨values, _, built⟩ | ⟨complaint, refused, limit, _⟩
  · exact absurd (buildable_of_built built member) unbuilt
  · refine ⟨complaint, ?_, limit⟩
    rw [parse_of_not_blank written.not_blank, refused]

/-! ## The record -/

/-- A payload whose name is built from the bytes of its value. -/
def NamesPayload (raw : Bytes) (payload : Payload) : Prop :=
  Exists fun value => Builds raw value ∧ ⟨value.text?⟩ = payload

theorem nameField_raw (field : Json.Field Payload) (payload : Payload) (gap bytes raw rest : Bytes)
    (known : field ∈ [nameField]) (separators : Gap gap) (written : Skippable bytes raw)
    (ends : Delimited rest) :
    Settles (Reads NamesPayload raw) rest (field.read payload (gap ++ (bytes ++ rest))) := by
  rw [List.mem_singleton] at known
  rw [known]
  have wraps (result : Except Cause Value) (reads : Reads Builds raw result) :
      Reads NamesPayload raw (result.map fun value => ⟨value.text?⟩) := reads.map _
  refine (readValue_raw separators written ends).map ?_ ?_ fun result holds => wraps result holds.2
  · intro fault refused
    simp only [nameField, depthLimit, refused]
  · intro value after read
    simp only [nameField, depthLimit, read]

theorem nameCount_eq_zero_iff {Item : Type} (members : List (String × Item)) :
    nameCount members = 0 ↔ valuesOf "name" members = [] := by
  rw [nameCount, List.countP_eq_length_filter, List.length_eq_zero_iff, valuesOf,
    List.map_eq_nil_iff]

/-- After a name the other members come to its payload if none of them is a name
again. -/
theorem along_after_name {later : Payload} {members : List (String × Bytes)}
    {result : Except Cause (Payload × List String)}
    (along : Along (Record.FieldStep [nameField] fun _ _ => Reads NamesPayload) (later, ["name"])
      members result) (payload : Payload) :
    result.map Prod.fst = .ok payload ↔ valuesOf "name" members = [] ∧ later = payload := by
  rw [← nameCount_eq_zero_iff]
  rcases along_seen along with ⟨none, rfl⟩ | ⟨again, rfl⟩
  · rw [Except.map, Except.ok.injEq]
    exact ⟨fun same => ⟨none, same⟩, And.right⟩
  · constructor
    · intro impossible
      cases impossible
    · rintro ⟨none, _⟩
      omega

/-- A name and the members after it come to the payload of that name. -/
theorem along_name {raw : Bytes} {members : List (String × Bytes)}
    {result : Except Cause (Payload × List String)}
    (along : Along (Record.FieldStep [nameField] fun _ _ => Reads NamesPayload) (anonymous, [])
      (("name", raw) :: members) result) (payload : Payload) :
    result.map Prod.fst = .ok payload ↔
      valuesOf "name" members = [] ∧ NamesPayload raw payload := by
  cases along with
  | next step further =>
      rcases step_name step with ⟨outcome, reads, equal⟩
      cases outcome with
      | error cause => cases equal
      | ok later =>
          cases equal
          rw [along_after_name further, ← reads payload, Except.ok.injEq]
  | refused step =>
      rcases step_name step with ⟨outcome, reads, equal⟩
      cases outcome with
      | ok later => cases equal
      | error cause =>
          constructor
          · intro impossible
            cases impossible
          · rintro ⟨_, written⟩
            exact absurd written ((reads_error_iff _ _ _).mp reads payload)

/-- The payload of the record is the one of its only name, if it has one. -/
theorem along_names {members : List (String × Bytes)}
    {result : Except Cause (Payload × List String)}
    (along : Along (Record.FieldStep [nameField] fun _ _ => Reads NamesPayload) (anonymous, [])
      members result) (payload : Payload) :
    result.map Prod.fst = .ok payload ↔
      Exists fun stated => Stated NamesPayload (valuesOf "name" members) stated ∧
        payload = stated.getD anonymous := by
  induction members with
  | nil =>
      cases along with
      | done =>
          rw [Except.map, Except.ok.injEq]
          constructor
          · rintro rfl
            exact ⟨none, .absent, rfl⟩
          · rintro ⟨_, none, rfl⟩
            cases none
            rfl
  | cons pair members inductionHypothesis =>
      rcases pair with ⟨key, raw⟩
      by_cases same : key = "name"
      · rw [same] at along ⊢
        simp only [along_name along, valuesOf_same, stated_cons_iff]
        constructor
        · rintro ⟨last, written⟩
          exact ⟨some payload, ⟨last, payload, written, rfl⟩, rfl⟩
        · rintro ⟨_, ⟨last, later, written, rfl⟩, rfl⟩
          exact ⟨last, written⟩
      · rw [valuesOf_other same]
        cases along with
        | next step further =>
            cases step_other same step
            exact inductionHypothesis further
        | refused step => cases step_other same step

/-- What the record makes of an object depends on its names alone. -/
theorem decode_object {input : Bytes} {members : List (String × Bytes)}
    (written : ObjectText input members) (payload : Payload) :
    decode input = .ok payload ↔
      Exists fun stated => Stated NamesPayload (valuesOf "name" members) stated ∧
        payload = stated.getD anonymous := by
  cases written with
  | @object before inside after _ leading elements trailing =>
      have skippable : forall bytes raw, Skippable bytes raw ->
          Exists fun other => ValueText .skip bytes other :=
        fun bytes raw written => written.2
      have settles := Record.read_object_settles "struct GreetingRequest" anonymous nameField_raw
        skippable leading elements after
      rw [decode, reader, readAll_eq_ok_iff]
      constructor
      · rintro ⟨rest, read, _⟩
        rw [read] at settles
        cases settles with
        | read holds =>
            rcases holds with ⟨progress, along, same⟩
            exact (along_names along payload).mp same.symm
      · intro stated
        refine ⟨after, ?_, trailing⟩
        rw [← settles_eq_iff]
        apply settles.mono
        rintro _ ⟨progress, along, rfl⟩
        exact (along_names along payload).mpr stated

/-! ## A name beside any other member -/

theorem skippable_of_skipValue {first : UInt8} {others : Bytes}
    (plain : Bytes.isSeparator first = false)
    (skipped : skipValue 0 (first :: others) = .ok []) :
    Skippable (first :: others) (first :: others) := by
  rcases skipValue_sound skipped with ⟨value, gap, bytes, separators, split, written⟩
  rw [List.append_nil] at split
  cases gap with
  | nil =>
      rw [split]
      exact ⟨rfl, value, written⟩
  | cons byte gap =>
      rw [List.cons_append, List.cons.injEq] at split
      have separator := separators byte List.mem_cons_self
      rw [← split.1, plain] at separator
      cases separator

/-- A value can be built exactly if it is read. -/
theorem buildable_iff {raw : Bytes} (written : Skippable raw raw) :
    Buildable raw ↔ Exists fun value => readValue .keep 126 raw = .ok (value, []) := by
  have settles := readValue_raw gap_nil written delimited_nil
  rw [List.nil_append, List.append_nil] at settles
  have reads := settles.mono fun _ holds => holds.2
  constructor
  · rintro ⟨value, built⟩
    exact ⟨value, reads.eq_ok built⟩
  · rintro ⟨value, read⟩
    rw [read] at reads
    cases reads with
    | read holds => exact ⟨value, (holds value).mp rfl⟩

theorem textText_of_readText (bytes : Bytes) {text : String}
    (read : readText .keep (bytes ++ [ascii '"']) = .ok (text, [])) :
    TextText .keep (ascii '"' :: (bytes ++ [ascii '"'])) text := by
  rcases readText_sound read with ⟨others, split, spelled⟩
  rw [List.append_cancel_right split]
  exact .quoted spelled

/-- The name of Ada, and another member with any value. -/
theorem objectText_beside_name {raw : Bytes} (written : Skippable raw raw) :
    ObjectText (Bytes.ofText "\x7b\"name\":\"Ada\",\"x\":" ++ (raw ++ [ascii '\x7d']))
      [("name", Bytes.ofText "\"Ada\""), ("x", raw)] := by
  have name : TextText .keep (Bytes.ofText "\"name\"") "name" :=
    textText_of_readText (Bytes.ofText "name") rfl
  have other : TextText .keep (Bytes.ofText "\"x\"") "x" :=
    textText_of_readText (Bytes.ofText "x") rfl
  have value : Skippable (Bytes.ofText "\"Ada\"") (Bytes.ofText "\"Ada\"") :=
    skippable_of_skipValue rfl rfl
  have members : Elements (Member .keep Skippable) _ _ :=
    .some gap_nil (.pair name gap_nil gap_nil value)
      (.more gap_nil gap_nil (.pair other gap_nil gap_nil written) (.done gap_nil))
  have object := ObjectText.object gap_nil members gap_nil
  have opening : Bytes.ofText "\x7b\"name\":\"Ada\",\"x\":" =
      ascii '\x7b' :: (Bytes.ofText "\"name\"" ++ ascii ':' :: (Bytes.ofText "\"Ada\"" ++
        ascii ',' :: (Bytes.ofText "\"x\"" ++ [ascii ':']))) := rfl
  rw [opening]
  simpa only [List.append_assoc, List.cons_append, List.nil_append, List.append_nil] using object

/-! ## Two objects with the same names -/

/-- Two objects with the same names, whatever else is in them, are the same to
the record.  They are the same payload when all values in them can be built.
An object with a value that cannot be built is refused, whatever its names,
because it nests too deep, because a number in it is too large, or because of a
text in it.  In an object that is not refused, the last name is the name of the
payload if it is a text. -/
theorem parse_ignores_others {first second : Bytes} {members others : List (String × Bytes)}
    (left : ObjectText first members) (right : ObjectText second others)
    (same : valuesOf "name" members = valuesOf "name" others) :
    (forall payload, decode first = .ok payload ↔ decode second = .ok payload) ∧
    ((forall pair, pair ∈ members -> Buildable pair.2) ->
      (forall pair, pair ∈ others -> Buildable pair.2) ->
      Exists fun payload => parse first = .ok payload ∧ parse second = .ok payload) ∧
    ((Exists fun pair => pair ∈ others ∧ ¬ Buildable pair.2) ->
      Exists fun complaint =>
        parse second = .error (.notJson complaint) ∧ Limit complaint.cause) ∧
    (forall raws raw name, valuesOf "name" members = raws ++ [raw] -> TextText .keep raw name ->
      (forall pair, pair ∈ members -> Buildable pair.2) -> parse first = .ok ⟨some name⟩) := by
  refine ⟨?_, ?_, ?_, ?_⟩
  · intro payload
    rw [decode_object left, decode_object right, same]
  · intro built other
    rcases parse_of_buildable left built with ⟨values, found, parsed⟩
    rcases parse_of_buildable right other with ⟨again, more, twice⟩
    rw [same] at found
    rw [built_unique found more] at parsed
    exact ⟨_, parsed, twice⟩
  · rintro ⟨pair, member, unbuilt⟩
    exact parse_of_not_buildable right member unbuilt
  · intro raws raw name last spelled built
    rcases parse_of_buildable left built with ⟨values, found, parsed⟩
    rw [last] at found
    rcases getLast?_built found with ⟨value, final, builds⟩
    rw [builds.unique (builds_text spelled)] at final
    rw [parsed, final]
    rfl

/-- A name that is kept beside one number and lost beside a number that is too
large. -/
theorem parse_large_number :
    ObjectText (Bytes.ofText "\x7b\"name\":\"Ada\",\"x\":1\x7d")
      [("name", Bytes.ofText "\"Ada\""), ("x", Bytes.ofText "1")] ∧
    ObjectText (Bytes.ofText "\x7b\"name\":\"Ada\",\"x\":1e9999999999\x7d")
      [("name", Bytes.ofText "\"Ada\""), ("x", Bytes.ofText "1e9999999999")] ∧
    decode (Bytes.ofText "\x7b\"name\":\"Ada\",\"x\":1e9999999999\x7d") = .ok ⟨some "Ada"⟩ ∧
    parse (Bytes.ofText "\x7b\"name\":\"Ada\",\"x\":1\x7d") = .ok ⟨some "Ada"⟩ ∧
    Exists fun complaint =>
      parse (Bytes.ofText "\x7b\"name\":\"Ada\",\"x\":1e9999999999\x7d") =
        .error (.notJson complaint) ∧
      Limit complaint.cause := by
  have small : Skippable (Bytes.ofText "1") (Bytes.ofText "1") :=
    skippable_of_skipValue rfl rfl
  have large : Skippable (Bytes.ofText "1e9999999999") (Bytes.ofText "1e9999999999") :=
    skippable_of_skipValue rfl rfl
  have left := objectText_beside_name small
  have right := objectText_beside_name large
  have refused : readValue .keep 126 (Bytes.ofText "1e9999999999") =
      .error ⟨.numberOutOfRange, []⟩ := rfl
  have unbuilt : ¬ Buildable (Bytes.ofText "1e9999999999") := by
    rw [buildable_iff large, refused]
    rintro ⟨value, read⟩
    cases read
  have spelled : TextText .keep (Bytes.ofText "\"Ada\"") "Ada" :=
    textText_of_readText (Bytes.ofText "Ada") rfl
  have built : forall pair, pair ∈ [("name", Bytes.ofText "\"Ada\""), ("x", Bytes.ofText "1")] ->
      Buildable pair.2 := by
    intro pair member
    simp only [List.mem_cons, List.not_mem_nil, or_false] at member
    rcases member with rfl | rfl
    · exact ⟨_, builds_text spelled⟩
    · exact (buildable_iff small).mpr ⟨_, rfl⟩
  rcases parse_ignores_others left right rfl with ⟨records, _, refuses, named⟩
  refine ⟨left, right, (records _).mp rfl, named [] _ _ rfl spelled built, refuses ?_⟩
  exact ⟨("x", _), List.mem_cons_of_mem _ List.mem_cons_self, unbuilt⟩

end Payload
end Salutation
