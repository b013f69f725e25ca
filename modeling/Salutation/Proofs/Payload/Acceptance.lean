import Salutation.Payload
import Salutation.Proofs.Json.Encoding

namespace Salutation
namespace Payload

open Json Json.Grammar

/-!
# Which inputs are payloads

Every input belongs to one of four classes, and each class is described
without mentioning the reader.  An input is a payload when it is an object of
the grammar, and the payload then names whom the last member called "name"
names.  The other three classes are the reasons for which an input is refused.
-/

/-- An input that is a value of the grammar, with no more than 127 containers
inside each other. -/
def Readable (input : Bytes) (value : Json.Value) : Prop :=
  Document input value ∧ value.nesting <= 127

/-- The last member called "name" is a text. -/
def Names (members : List (String × Json.Value)) (name : String) : Prop :=
  Exists fun before => Exists fun after =>
    members = before ++ ("name", .scalar (.text name)) :: after ∧
    forall pair, pair ∈ after -> pair.1 ≠ "name"

/-- The bytes of which an empty input may consist: tab, line feed, form feed,
carriage return and space. -/
def blanks : Bytes := [0x09, 0x0a, 0x0c, 0x0d, 0x20]

theorem isBlank_iff (byte : UInt8) : Bytes.isBlank byte = true ↔ byte ∈ blanks := by
  simp only [Bytes.isBlank, Bytes.isSeparator, Bool.or_eq_true, beq_iff_eq, blanks, List.mem_cons,
    List.not_mem_nil, or_false]
  constructor
  · rintro ((((rfl | rfl) | rfl) | rfl) | rfl) <;> decide
  · rintro (rfl | rfl | rfl | rfl | rfl) <;> decide

theorem all_isBlank_iff (input : Bytes) :
    input.all Bytes.isBlank = true ↔ forall byte, byte ∈ input -> byte ∈ blanks := by
  rw [List.all_eq_true]
  constructor
  · intro holds byte member
    exact (isBlank_iff byte).mp (holds byte member)
  · intro holds byte member
    exact (isBlank_iff byte).mpr (holds byte member)

/-- The member that is looked up is followed by no other one of its key. -/
theorem lookupLast_eq_some_iff (key : String) (members : List (String × Json.Value))
    (value : Json.Value) :
    Json.lookupLast key members = some value ↔
      Exists fun before => Exists fun after =>
        members = before ++ (key, value) :: after ∧ forall pair, pair ∈ after -> pair.1 ≠ key := by
  simp only [Json.lookupLast, Option.map_eq_some_iff, List.find?_eq_some_iff_append, beq_iff_eq]
  constructor
  · rintro ⟨pair, ⟨same, after, before, split, different⟩, rfl⟩
    refine ⟨before.reverse, after.reverse, ?_, ?_⟩
    · rw [← List.reverse_reverse members, split, ← same]
      simp only [List.reverse_append, List.reverse_cons, List.append_assoc, List.singleton_append]
    · intro other member
      have unequal := different other (List.mem_reverse.mp member)
      simpa using unequal
  · rintro ⟨before, after, rfl, different⟩
    refine ⟨(key, value), ⟨rfl, after.reverse, before.reverse, ?_, ?_⟩, rfl⟩
    · simp only [List.reverse_append, List.reverse_cons, List.append_assoc, List.singleton_append]
    · intro other member
      have unequal := different other (List.mem_reverse.mp member)
      simpa using unequal

theorem text?_eq_some_iff (value : Json.Value) (text : String) :
    value.text? = some text ↔ value = .scalar (.text text) := by
  constructor
  · intro found
    unfold Json.Value.text? at found
    split at found
    · cases found
      rfl
    · cases found
  · rintro rfl
    rfl

/-- The payload of an object names whom its last name names. -/
theorem ofMembers_name_iff (members : List (String × Json.Value)) (name : String) :
    (ofMembers members).name = some name ↔ Names members name := by
  simp only [ofMembers, Option.bind_eq_some_iff, text?_eq_some_iff]
  constructor
  · rintro ⟨value, found, rfl⟩
    exact (lookupLast_eq_some_iff _ _ _).mp found
  · intro names
    exact ⟨_, (lookupLast_eq_some_iff _ _ _).mpr names, rfl⟩

theorem eq_of_names {payload : Payload} {members : List (String × Json.Value)}
    (names : forall name, payload.name = some name ↔ Names members name) :
    payload = ofMembers members := by
  cases payload with
  | mk name =>
      have same : name = (ofMembers members).name := by
        apply Option.ext
        intro found
        exact (names found).trans (ofMembers_name_iff members found).symm
      rw [same]

/-- The first byte of a value, with the gap before it. -/
theorem Readable.begins {input : Bytes} {value : Value} (readable : Readable input value) :
    Exists fun gap => Exists fun first => Exists fun inside =>
      input = gap ++ first :: inside ∧ Gap gap ∧ Bytes.isBlank first = false := by
  cases readable.1 with
  | value before spelled after =>
      rcases spelled.starts with ⟨first, others, rfl, notBlank, _⟩
      exact ⟨_, first, _, rfl, before, notBlank⟩

/-- A value is more than blanks. -/
theorem Readable.not_blank {input : Bytes} {value : Value} (readable : Readable input value) :
    Exists fun byte => byte ∈ input ∧ byte ∉ blanks := by
  rcases readable.begins with ⟨gap, first, inside, rfl, _, notBlank⟩
  refine ⟨first, List.mem_append_right gap List.mem_cons_self, ?_⟩
  rw [← isBlank_iff, notBlank]
  exact Bool.false_ne_true

/-- A value that begins with a brace is an object. -/
theorem Readable.object {gap inside : Bytes} {value : Value}
    (readable : Readable (gap ++ ascii '\x7b' :: inside) value) (leading : Gap gap) :
    Exists fun members => value = .object members := by
  rcases readable with ⟨document, _⟩
  generalize same : gap ++ ascii '\x7b' :: inside = input at document
  cases document with
  | value before written after =>
      cases written with
      | scalar spelled =>
          rcases spelled.begins with ⟨first, others, rfl, begins⟩
          have equal := first_after_gap leading before (by decide) begins.plain same
          exact absurd equal.1.symm begins.notObject
      | list _ =>
          have equal := first_after_gap leading before (by decide) (by decide) same
          exact absurd equal.1 (by decide)
      | object _ => exact ⟨_, rfl⟩

theorem parse_of_blank {input : Bytes} (blank : forall byte, byte ∈ input -> byte ∈ blanks) :
    parse input = .error .empty := by
  rw [parse, if_pos ((all_isBlank_iff input).mpr blank)]

theorem parse_of_not_blank {input : Bytes}
    (notBlank : Exists fun byte => byte ∈ input ∧ byte ∉ blanks) :
    parse input =
      match Json.parse input with
      | .error complaint => .error (.notJson complaint)
      | .ok (.object members) => .ok (ofMembers members)
      | .ok _ => .error .notObject := by
  have holds : ¬ input.all Bytes.isBlank = true := by
    rw [all_isBlank_iff]
    rcases notBlank with ⟨byte, member, other⟩
    exact fun blank => other (blank byte member)
  exact if_neg holds

theorem not_forall_blank_iff (input : Bytes) :
    (Exists fun byte => byte ∈ input ∧ byte ∉ blanks) ↔
      ¬ forall byte, byte ∈ input -> byte ∈ blanks := by
  simp only [Classical.not_forall, exists_prop]

theorem parse_eq_ok_iff (input : Bytes) (payload : Payload) :
    parse input = .ok payload ↔
      Exists fun members => Readable input (.object members) ∧ payload = ofMembers members := by
  constructor
  · intro parsed
    by_cases blank : forall byte, byte ∈ input -> byte ∈ blanks
    · rw [parse_of_blank blank] at parsed
      cases parsed
    · rw [parse_of_not_blank ((not_forall_blank_iff input).mpr blank)] at parsed
      split at parsed
      · cases parsed
      · next members read =>
          cases parsed
          exact ⟨members, (Json.parse_eq_ok_iff _ _).mp read, rfl⟩
      · cases parsed
  · rintro ⟨members, readable, rfl⟩
    rw [parse_of_not_blank readable.not_blank, (Json.parse_eq_ok_iff _ _).mpr readable]

theorem parse_eq_empty_iff (input : Bytes) :
    parse input = .error .empty ↔ forall byte, byte ∈ input -> byte ∈ blanks := by
  constructor
  · intro parsed
    by_cases blank : forall byte, byte ∈ input -> byte ∈ blanks
    · exact blank
    · rw [parse_of_not_blank ((not_forall_blank_iff input).mpr blank)] at parsed
      split at parsed
      · cases parsed
      · cases parsed
      · cases parsed
  · exact parse_of_blank

theorem parse_eq_notObject_iff (input : Bytes) :
    parse input = .error .notObject ↔
      Exists fun value => Readable input value ∧ forall members, value ≠ .object members := by
  constructor
  · intro parsed
    by_cases blank : forall byte, byte ∈ input -> byte ∈ blanks
    · rw [parse_of_blank blank] at parsed
      cases parsed
    · rw [parse_of_not_blank ((not_forall_blank_iff input).mpr blank)] at parsed
      split at parsed
      · cases parsed
      · cases parsed
      · next value other read => exact ⟨value, (Json.parse_eq_ok_iff _ _).mp read, other⟩
  · rintro ⟨value, readable, other⟩
    rw [parse_of_not_blank readable.not_blank, (Json.parse_eq_ok_iff _ _).mpr readable]
    split
    · next failed => cases failed
    · next members read =>
        cases read
        exact absurd rfl (other members)
    · rfl

theorem parse_eq_notJson_iff (input : Bytes) :
    (Exists fun complaint => parse input = .error (.notJson complaint)) ↔
      (forall value, ¬ Readable input value) ∧ Exists fun byte => byte ∈ input ∧ byte ∉ blanks := by
  constructor
  · rintro ⟨complaint, parsed⟩
    have notBlank : ¬ forall byte, byte ∈ input -> byte ∈ blanks := by
      intro blank
      rw [parse_of_blank blank] at parsed
      cases parsed
    refine ⟨?_, (not_forall_blank_iff input).mpr notBlank⟩
    intro value readable
    rw [parse_of_not_blank readable.not_blank, (Json.parse_eq_ok_iff _ _).mpr readable] at parsed
    split at parsed
    · next failed => cases failed
    · cases parsed
    · cases parsed
  · rintro ⟨unreadable, notBlank⟩
    rw [parse_of_not_blank notBlank]
    cases read : Json.parse input with
    | error complaint => exact ⟨complaint, rfl⟩
    | ok value => exact absurd ((Json.parse_eq_ok_iff _ _).mp read) (unreadable value)

/-- An input is a payload exactly when it is an object of the grammar, and it
names whom the last member called "name" names.  It is empty when it consists
of blanks, it is no object when it is another value of the grammar, and it is
not JSON in all other cases.  Whatever is of the grammar is a text in UTF-8. -/
theorem parse_classifies (input : Bytes) :
    (forall payload, parse input = .ok payload ↔
      Exists fun members => Readable input (.object members) ∧
        forall name, payload.name = some name ↔ Names members name) ∧
    (parse input = .error .empty ↔ forall byte, byte ∈ input -> byte ∈ blanks) ∧
    (parse input = .error .notObject ↔
      Exists fun value => Readable input value ∧ forall members, value ≠ .object members) ∧
    ((Exists fun complaint => parse input = .error (.notJson complaint)) ↔
      (forall value, ¬ Readable input value) ∧
        Exists fun byte => byte ∈ input ∧ byte ∉ blanks) ∧
    (forall value, Readable input value -> Exists fun text => Bytes.toText? input = some text) := by
  refine ⟨?_, parse_eq_empty_iff input, parse_eq_notObject_iff input,
    parse_eq_notJson_iff input, ?_⟩
  · intro payload
    rw [parse_eq_ok_iff]
    constructor
    · rintro ⟨members, readable, rfl⟩
      exact ⟨members, readable, ofMembers_name_iff members⟩
    · rintro ⟨members, readable, names⟩
      exact ⟨members, readable, eq_of_names names⟩
  · intro value readable
    exact (Bytes.isText_iff input).mp readable.1.isText

/-- A name that occurs twice, the second time under a key with an escape in it. -/
theorem readable_escaped_name :
    Exists fun members =>
      Readable (Bytes.ofText "\x7b\"name\":1,\"n\\u0061me\":\"Ada\"\x7d") (.object members) ∧
      Names members "Ada" ∧
      Exists fun text =>
        Bytes.toText? (Bytes.ofText "\x7b\"name\":1,\"n\\u0061me\":\"Ada\"\x7d") = some text := by
  have classes := parse_classifies (Bytes.ofText "\x7b\"name\":1,\"n\\u0061me\":\"Ada\"\x7d")
  rcases (classes.1 ⟨some "Ada"⟩).mp rfl with ⟨members, readable, names⟩
  exact ⟨members, readable, (names "Ada").mp rfl, classes.2.2.2.2 _ readable⟩

end Payload
end Salutation
