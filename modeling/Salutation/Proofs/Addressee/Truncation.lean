import Salutation.Addressee
import Salutation.Stream.Buffer
import Salutation.Proofs.Payload.Acceptance
import Salutation.Proofs.Stream.Arrival

namespace Salutation

/-!
# Payloads that are cut off

What has arrived of a payload is read even when the stream fails or falls
silent in the middle of it.  This is safe because an object ends with its own
brace.  A beginning of a payload either holds the whole object, and then names
the same person, or it holds no value at all, and then the default name takes
its place.
-/

namespace Payload

open Json Json.Grammar

/-- A value that an object goes on from begins with the same brace, and is an
object as well. -/
theorem Readable.object_of_append {cut tail gap inside : Bytes} {value : Value}
    (part : Readable cut value) (leading : Gap gap)
    (joined : cut ++ tail = gap ++ ascii '\x7b' :: inside) :
    Exists fun members => value = .object members := by
  rcases part.begins with ⟨between, first, others, rfl, separators, notBlank⟩
  have plain := not_separator_of_not_blank notBlank
  rw [List.append_assoc] at joined
  have same := first_after_gap separators leading plain (by decide) joined
  rw [same.1] at part
  exact part.object separators

/-- Whatever can be read of the beginning of an object is the whole object. -/
theorem Readable.eq_of_isPrefix {cut input : Bytes} {value : Value}
    {members : List (String × Value)} (whole : Readable input (.object members))
    (part : Readable cut value) (beginning : List.IsPrefix cut input) :
    value = .object members := by
  rcases beginning with ⟨tail, joined⟩
  rcases whole with ⟨whole, _⟩
  cases whole with
  | value leading written trailing =>
      have opens : Exists fun others => value = .object others := by
        cases written with
        | object _ => exact part.object_of_append leading joined
      rcases opens with ⟨others, rfl⟩
      rcases part with ⟨part, _⟩
      cases part with
      | value before spelled between =>
          have same := ValueText.eq_of_append_eq spelled written before leading
            (fun _ number => by cases number) (fun _ number => by cases number)
            (by rw [← joined, List.append_assoc, List.append_assoc])
          exact same.1

/-- A beginning of a payload is read as the same payload or not at all. -/
theorem parse_of_isPrefix {cut input : Bytes} {payload : Payload}
    (parsed : parse input = .ok payload) (beginning : List.IsPrefix cut input) :
    parse cut = .ok payload ∨ parse cut = .error .empty ∨
      Exists fun complaint => parse cut = .error (.notJson complaint) := by
  rcases (parse_eq_ok_iff input payload).mp parsed with ⟨members, whole, rfl⟩
  cases result : parse cut with
  | ok found =>
      rcases (parse_eq_ok_iff cut found).mp result with ⟨others, part, rfl⟩
      cases whole.eq_of_isPrefix part beginning
      exact .inl rfl
  | error refusal =>
      cases refusal with
      | empty => exact .inr (.inl rfl)
      | notJson complaint => exact .inr (.inr ⟨complaint, rfl⟩)
      | notObject =>
          rcases (parse_eq_notObject_iff cut).mp result with ⟨value, part, other⟩
          exact absurd (whole.eq_of_isPrefix part beginning) (other members)

end Payload

namespace Addressee

theorem conclude_name (reads : Nat) (entries : List Diagnostics.Entry)
    (result : Except Fallback String) :
    (Resolution.after reads (conclude entries result)).name = result.toOption.getD defaultName := by
  cases result <;> rfl

/-- A beginning of a payload gives the name that the payload gives, or none. -/
theorem ofBytes_of_isPrefix {cut input : Bytes} {payload : Payload}
    (parsed : Payload.parse input = .ok payload) (beginning : List.IsPrefix cut input) :
    ofBytes cut = ofBytes input ∨ Exists fun fallback => ofBytes cut = .error fallback := by
  rcases Payload.parse_of_isPrefix parsed beginning with whole | empty | ⟨complaint, broken⟩
  · rw [ofBytes, ofBytes, whole, parsed]
    exact .inl rfl
  · rw [ofBytes, empty]
    exact .inr ⟨_, rfl⟩
  · rw [ofBytes, broken]
    exact .inr ⟨_, rfl⟩

/-- What a stream gives before the deadline gives the name that all of its data
gives, or none. -/
theorem ofReading_outcome {input : Bytes} {payload : Payload}
    (parsed : Payload.parse input = .ok payload) (timeout : Duration) {script : Stream.Script}
    (carries : script.content = input) :
    ofReading (Stream.outcome timeout script).result = ofBytes input ∨
      Exists fun fallback =>
        ofReading (Stream.outcome timeout script).result = .error fallback := by
  rcases Stream.outcome_result timeout script with arrived | ⟨_, failure, failed⟩
  · have beginning := script.arrivedFrom_isPrefix_content timeout.toNanoseconds 0
    rw [carries] at beginning
    rw [arrived]
    exact ofBytes_of_isPrefix parsed beginning
  · rw [failed]
    exact .inr ⟨_, rfl⟩

theorem resolve_buffer (input : Bytes) :
    resolve (Stream.Buffer.ofBytes input).toSource =
      .ok (.after 1 (conclude [] (ofBytes input))) :=
  resolve_reading _

theorem resolve_script {now timeout clock : Duration}
    (fits : Stream.deadline? now timeout = some clock) (script : Stream.Script) :
    resolve (.ofScript false now timeout script) =
      .ok (.after 1 (conclude (Stream.outcome timeout script).entries
        (ofReading (Stream.outcome timeout script).result))) := by
  rw [Stream.Source.ofScript, Stream.read_eq fits, resolve_reading]

/-- A stream whose deadline the clock cannot show is not resolved. -/
theorem resolve_script_overflow {now timeout : Duration}
    (unfit : Stream.deadline? now timeout = none) (script : Stream.Script) :
    resolve (.ofScript false now timeout script) = .error {} := by
  rw [Stream.Source.ofScript, Stream.read, unfit]
  exact resolve_overflow _

/-- A payload that is cut off never names another person.  A beginning of it is
the same payload, empty, or not JSON.  A stream that carries it, at whatever
times and with whatever end, gives the name that the payload gives at once or
the default name, unless the clock cannot show the deadline. -/
theorem resolve_truncated {input : Bytes} {payload : Payload}
    (parsed : Payload.parse input = .ok payload) :
    (forall cut, List.IsPrefix cut input ->
      Payload.parse cut = .ok payload ∨ Payload.parse cut = .error .empty ∨
        Exists fun complaint => Payload.parse cut = .error (.notJson complaint)) ∧
    Exists fun whole => resolve (Stream.Buffer.ofBytes input).toSource = .ok whole ∧
      forall now timeout (script : Stream.Script), script.content = input ->
        (Stream.deadline? now timeout = none ∧
          resolve (.ofScript false now timeout script) = .error {}) ∨
        Exists fun resolution =>
          resolve (.ofScript false now timeout script) = .ok resolution ∧
            (resolution.name = defaultName ∨ resolution.name = whole.name) := by
  refine ⟨fun cut => Payload.parse_of_isPrefix parsed, _, resolve_buffer input, ?_⟩
  intro now timeout script carries
  cases fits : Stream.deadline? now timeout with
  | none =>
      exact .inl ⟨rfl, resolve_script_overflow fits script⟩
  | some clock =>
      refine .inr ⟨_, resolve_script fits script, ?_⟩
      rw [conclude_name, conclude_name]
      rcases ofReading_outcome parsed timeout carries with same | ⟨fallback, failed⟩
      · rw [same]
        exact .inr rfl
      · rw [failed]
        exact .inl rfl

/-- A name that is not complete when the time is up. -/
theorem resolve_cut_name :
    Exists fun resolution =>
      resolve (.ofScript false ⟨0, 0⟩ ⟨1, 0⟩
        [.data (Bytes.ofText "\x7b\"name\":\"Al"), .delay 2000,
          .data (Bytes.ofText "ice\"\x7d")]) = .ok resolution ∧
      (resolution.name = defaultName ∨ resolution.name = "Alice") := by
  have parsed : Payload.parse (Bytes.ofText "\x7b\"name\":\"Alice\"\x7d") =
      .ok ⟨some "Alice"⟩ := by
    rfl
  have carries : Stream.Script.content [.data (Bytes.ofText "\x7b\"name\":\"Al"), .delay 2000,
      .data (Bytes.ofText "ice\"\x7d")] = Bytes.ofText "\x7b\"name\":\"Alice\"\x7d" := by
    rfl
  rcases (resolve_truncated parsed).2 with ⟨whole, read, holds⟩
  cases read
  rcases holds ⟨0, 0⟩ ⟨1, 0⟩ _ carries with ⟨overflow, _⟩ | found
  · cases overflow
  · exact found

end Addressee
end Salutation
