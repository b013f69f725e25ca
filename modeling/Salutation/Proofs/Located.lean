import Salutation.Proofs.Json.Positions
import Salutation.Proofs.Payload.Conversion
import Salutation.Settings.Load

namespace Salutation

/-!
# What is wrong with a document, and where

A payload and a file of settings are refused for what is in their bytes, and the
message then ends in the place of it.  Two refusals of a payload are none of
these: that the input is empty, and that it is JSON and no object, is said of
the input as a whole and without a place.
-/

open Json

namespace Payload

theorem nameField_within (payload : Payload) : ReadsWithin (nameField.read payload) := by
  intro input
  have value : Within Prod.snd input (readValue .keep (depthLimit - 1) input) :=
    readValue_within _ _ _
  unfold nameField
  simp only
  split
  · next refused => exact within_error (value.fault _ refused)
  · next read => exact within_ok (value.result _ read)

theorem reader_within : ReadsWithin reader := by
  refine Record.read_within ?_ _
  intro field member
  rw [List.mem_singleton.mp member]
  exact nameField_within

/-- What the two passes fail for, when it is not the input as a whole, is what
the first one has complained about. -/
theorem parseInPasses_error {input : Bytes} {failure : Failure}
    (failed : parseInPasses input = .error failure) (notEmpty : failure ≠ .refused .empty)
    (object : failure ≠ .refused .notObject) :
    Exists fun complaint => failure = .refused (.notJson complaint) ∧
      Json.parse input = .error complaint := by
  rw [parseInPasses_eq, parse] at failed
  split at failed
  · cases failed
    exact absurd rfl notEmpty
  · split at failed
    · next complaint refused =>
        cases failed
        exact ⟨complaint, rfl, refused⟩
    · cases failed
    · cases failed
      exact absurd rfl object

end Payload

namespace Settings

theorem timeoutField_within (settings : Settings) : ReadsWithin (timeoutField.read settings) := by
  intro input
  have value := readNatural_within input
  unfold timeoutField
  simp only
  split
  · next refused => exact within_error (value.fault _ refused)
  · next read => exact within_ok (value.result _ read)

theorem runtimeField_within (settings : Settings) : ReadsWithin (runtimeField.read settings) := by
  intro input
  have value := readBoolean_within input
  unfold runtimeField
  simp only
  split
  · next refused => exact within_error (value.fault _ refused)
  · next read => exact within_ok (value.result _ read)

theorem reader_within : ReadsWithin reader := by
  refine Record.read_within ?_ _
  intro field member
  rcases List.mem_cons.mp member with rfl | member
  · exact timeoutField_within
  · rw [List.mem_singleton.mp member]
    exact runtimeField_within

/-- Settings that cannot be parsed are those of a file, and the complaint is
about its content. -/
theorem load_unparsable {files : Files} {path : String} {complaint : Complaint}
    (refused : (load files path).result = .error (.unparsable complaint)) :
    Exists fun content => files path = .file content ∧ decode content = .error complaint := by
  rw [load] at refused
  cases node : files path with
  | missing => rw [node] at refused; cases refused
  | directory => rw [node] at refused; cases refused
  | unreadable error => rw [node] at refused; cases refused
  | file content =>
      rw [node] at refused
      have same : ofContent content = .error (.unparsable complaint) := refused
      refine ⟨content, rfl, ?_⟩
      rw [ofContent] at same
      split at same
      · cases same
      · split at same
        · next failed =>
            cases same
            exact failed
        · split at same
          · next settings _ invalid =>
              cases same
              rw [validate] at invalid
              split at invalid <;> cases invalid
          · cases same

end Settings

/-- An object, with each key once, is always converted into a payload.  So the
two passes over an input give what `Payload.parse` gives, and when they fail for
anything but an empty input or a value that is no object, it is the first pass
that has failed.  Then, and whenever the record of a payload or a file of
settings is refused by its reader, the message ends in the line and the column
of an offset in the input, which is where the reader has stopped. -/
theorem refusals_are_located :
    (forall members, (members.map Prod.fst).Nodup ->
      Payload.ofValue (.object members) = .ok (Payload.ofMembers members)) ∧
    (forall input, Payload.parseInPasses input = (Payload.parse input).mapError .refused) ∧
    (forall input failure, Payload.parseInPasses input = .error failure ->
      failure ≠ .refused .empty -> failure ≠ .refused .notObject ->
      Exists fun complaint => failure = .refused (.notJson complaint) ∧
        Json.parse input = .error complaint ∧
        Located (readValue .keep depthLimit) input "input is not valid JSON: " failure.message) ∧
    (forall input complaint, Payload.decode input = .error complaint ->
      Located Payload.reader input "" complaint.message) ∧
    (forall files path complaint,
      (Settings.load files path).result = .error (.unparsable complaint) ->
      Exists fun content => files path = .file content ∧
        Located Settings.reader content "failed to parse config: "
          (Settings.LoadError.unparsable complaint).message) := by
  refine ⟨?_, Payload.parseInPasses_eq, ?_, ?_, ?_⟩
  · intro members once
    rw [Payload.ofValue_object, if_pos (Payload.nameCount_lt_two once)]
  · intro input failure failed notEmpty object
    rcases Payload.parseInPasses_error failed notEmpty object with ⟨complaint, rfl, refused⟩
    exact ⟨complaint, rfl, refused, located_of_refused (readValue_within _ _) refused _⟩
  · intro input complaint refused
    have located := located_of_refused Payload.reader_within refused ""
    rwa [String.empty_append] at located
  · intro files path complaint refused
    rcases Settings.load_unparsable refused with ⟨content, node, failed⟩
    exact ⟨content, node, located_of_refused Settings.reader_within failed _⟩

/-- Three documents that go wrong in their second line: a payload in which a
value is missing, a record with a second name, and settings of a wrong kind. -/
theorem refusals_in_second_line :
    ([("name", Value.scalar (.text "Ada"))].map Prod.fst).Nodup ∧
    Payload.ofValue (.object [("name", .scalar (.text "Ada"))]) = .ok ⟨some "Ada"⟩ ∧
    Payload.parseInPasses (Bytes.ofText "\x7b\n\"name\":?") =
      .error (.refused (.notJson ⟨.valueExpected, 2, 8⟩)) ∧
    Located (readValue .keep depthLimit) (Bytes.ofText "\x7b\n\"name\":?")
      "input is not valid JSON: " (Payload.Refusal.notJson ⟨.valueExpected, 2, 8⟩).message ∧
    Payload.decode (Bytes.ofText "\x7b\"name\":1,\n\"name\"\x7d") =
      .error ⟨.repeatedField "name", 2, 7⟩ ∧
    Located Payload.reader (Bytes.ofText "\x7b\"name\":1,\n\"name\"\x7d") ""
      (Complaint.message ⟨.repeatedField "name", 2, 7⟩) ∧
    (Settings.load (fun _ => .file (Bytes.ofText "\x7b\n\"show_runtime\":1\x7d")) "a").result =
      .error (.unparsable ⟨.wrongKind (.scalar (.number (.integer 1))) "a boolean", 2, 16⟩) ∧
    Located Settings.reader (Bytes.ofText "\x7b\n\"show_runtime\":1\x7d")
      "failed to parse config: " (Settings.LoadError.unparsable
        ⟨.wrongKind (.scalar (.number (.integer 1))) "a boolean", 2, 16⟩).message := by
  rcases refusals_are_located with ⟨converted, _, parsed, decoded, loaded⟩
  refine ⟨by decide, converted _ (by decide), rfl, ?_, rfl, decoded _ _ rfl, rfl, ?_⟩
  · rcases parsed (Bytes.ofText "\x7b\n\"name\":?") _ rfl (by decide) (by decide) with
      ⟨complaint, same, _, located⟩
    exact located
  · rcases loaded (fun _ => .file (Bytes.ofText "\x7b\n\"show_runtime\":1\x7d")) "a" _ rfl with
      ⟨content, node, located⟩
    cases node
    exact located

/-- An empty input is refused without a place in it. -/
theorem empty_refusal_has_no_place :
    Payload.parse [] = .error .empty ∧
    ¬ Exists fun before => Exists fun offset => Exists fun line => Exists fun column =>
      Points [] offset line column ∧
        Payload.Refusal.empty.message =
          before ++ (" at line " ++ toString line ++ " column " ++ toString column) := by
  refine ⟨rfl, ?_⟩
  rintro ⟨before, offset, line, column, _, same⟩
  have absent : 'l' ∉ Payload.Refusal.empty.message.toList := by decide
  have letter : 'l' ∈ " at line ".toList := by decide
  apply absent
  rw [same, String.toList_append, String.toList_append, String.toList_append,
    String.toList_append]
  exact List.mem_append_right _ (List.mem_append_left _ (List.mem_append_left _
    (List.mem_append_left _ letter)))

end Salutation
