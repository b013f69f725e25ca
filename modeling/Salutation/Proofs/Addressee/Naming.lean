import Salutation.Stream.StandardInput
import Salutation.Proofs.Addressee.Truncation

namespace Salutation

/-!
# Whom a source names

Some bytes name somebody when they are an object whose last name is a text that
is not empty.  A source that is no terminal names whom its bytes name.  There
is a name to greet in any case, because the default name takes the place of a
missing one, and the entry that says why is the only thing by which a fallback
can be told from a payload that names the world.
-/

namespace Stream

/-- The bytes that standard input offers within a timeout.  A terminal is not
read, so that it offers none. -/
def StandardInput.offered (terminal : Bool) (script : Script) (timeout : Duration) : Bytes :=
  if terminal then [] else script.arrived timeout.toNanoseconds

end Stream

namespace Addressee

/-! ## Whom some bytes name -/

/-- Whom to greet for some bytes: the name of their payload unless it is empty,
and otherwise the world. -/
inductive Greets (bytes : Bytes) : String -> Prop
  | named {payload : Payload} {name : String} :
      Payload.parse bytes = .ok payload -> payload.name = some name -> name ≠ "" ->
      Greets bytes name
  | unnamed :
      (forall payload name, Payload.parse bytes = .ok payload -> payload.name = some name ->
        name = "") ->
      Greets bytes "World"

theorem displayName_eq_some_iff (payload : Payload) (name : String) :
    payload.displayName = some name ↔ payload.name = some name ∧ name ≠ "" := by
  rw [Payload.displayName, Option.filter_eq_some_iff, Bool.not_eq_true', ne_eq]
  simp only [Bool.eq_false_iff, String.isEmpty_iff, ne_eq]

/-- A name that is not empty is the only one that is greeted. -/
theorem Greets.eq_of_parse {bytes : Bytes} {name other : String} (greets : Greets bytes name)
    (parsed : Payload.parse bytes = .ok ⟨some other⟩) (nonempty : other ≠ "") : name = other := by
  cases greets with
  | named found same _ =>
      cases found.symm.trans parsed
      cases same
      rfl
  | unnamed none => exact absurd (none _ _ parsed rfl) nonempty

/-- Some bytes greet one name only. -/
theorem Greets.unique {bytes : Bytes} {name other : String} (greets : Greets bytes name)
    (also : Greets bytes other) : name = other := by
  cases also with
  | @named payload other parsed named nonempty =>
      rcases payload with ⟨found⟩
      cases named
      exact greets.eq_of_parse parsed nonempty
  | unnamed none =>
      cases greets with
      | named parsed named nonempty => exact absurd (none _ _ parsed named) nonempty
      | unnamed _ => rfl

theorem greets_of_refused {bytes : Bytes} {refusal : Payload.Refusal}
    (refused : Payload.parse bytes = .error refusal) : Greets bytes "World" := by
  apply Greets.unnamed
  intro payload name parsed
  rw [refused] at parsed
  cases parsed

theorem greets_ofBytes (bytes : Bytes) :
    Greets bytes ((ofBytes bytes).toOption.getD defaultName) := by
  cases parsed : Payload.parse bytes with
  | error refusal =>
      rw [ofBytes, parsed]
      exact greets_of_refused parsed
  | ok payload =>
      cases shown : payload.displayName with
      | some name =>
          rcases (displayName_eq_some_iff payload name).mp shown with ⟨named, nonempty⟩
          simp only [ofBytes, parsed, shown]
          exact .named parsed named nonempty
      | none =>
          simp only [ofBytes, parsed, shown]
          apply Greets.unnamed
          intro other name found named
          rw [parsed] at found
          cases found
          by_cases empty : name = ""
          · exact empty
          · rw [(displayName_eq_some_iff payload name).mpr ⟨named, empty⟩] at shown
            cases shown

/-- A read greets whom the bytes name that have arrived.  When it fails, none
have. -/
theorem greets_outcome (timeout : Duration) (script : Stream.Script) :
    Greets (script.arrived timeout.toNanoseconds)
      ((ofReading (Stream.outcome timeout script).result).toOption.getD defaultName) := by
  rcases Stream.outcome_result timeout script with arrived | ⟨nothing, failure, failed⟩
  · rw [arrived]
    exact greets_ofBytes _
  · rw [failed, nothing]
    have refused : Payload.parse [] = .error .empty := rfl
    exact greets_of_refused refused

theorem announce_result (reading : Stream.Reading) :
    (Stream.StandardInput.announce reading).result = reading.result := by
  rw [Stream.StandardInput.announce]
  split <;> rfl

/-- Standard input that has not been read and is no terminal is read until the
deadline. -/
theorem resolve_fresh {now timeout clock : Duration}
    (fits : Stream.deadline? now timeout = some clock) (script : Stream.Script) :
    resolve ((Stream.StandardInput.fresh false script timeout).toSource now) =
      .ok (.after 1
        (conclude (Stream.StandardInput.announce (Stream.outcome timeout script)).entries
          (ofReading (Stream.outcome timeout script).result))) := by
  have given : (Stream.StandardInput.fresh false script timeout).reading now =
      .ok (Stream.StandardInput.announce (Stream.outcome timeout script)) := by
    simp only [Stream.StandardInput.reading, Stream.StandardInput.fresh, Stream.read_eq fits,
      Bool.false_eq_true, if_false]
  rw [Stream.StandardInput.toSource, given, Stream.StandardInput.fresh, resolve_reading,
    announce_result]

/-- Standard input whose deadline the clock cannot show is not resolved. -/
theorem resolve_fresh_overflow {now timeout : Duration}
    (unfit : Stream.deadline? now timeout = none) (script : Stream.Script) :
    resolve ((Stream.StandardInput.fresh false script timeout).toSource now) = .error {} := by
  have given : (Stream.StandardInput.fresh false script timeout).reading now = .error {} := by
    simp only [Stream.StandardInput.reading, Stream.StandardInput.fresh, Stream.read, unfit,
      Bool.false_eq_true, if_false]
  rw [Stream.StandardInput.toSource, given]
  exact resolve_overflow _

/-- A terminal is resolved without a read. -/
theorem resolve_fresh_terminal (now timeout : Duration) (script : Stream.Script) :
    resolve ((Stream.StandardInput.fresh true script timeout).toSource now) =
      .ok (.after 0 (conclude [] (.error .terminal))) :=
  resolve_terminal _

/-- Standard input is resolved to whom the bytes name that it offers before its
deadline. -/
theorem resolve_standardInput {now timeout clock : Duration}
    (fits : Stream.deadline? now timeout = some clock) (terminal : Bool) (script : Stream.Script) :
    Exists fun resolution =>
      resolve ((Stream.StandardInput.fresh terminal script timeout).toSource now) =
        .ok resolution ∧
      Greets (Stream.StandardInput.offered terminal script timeout) resolution.name := by
  cases terminal with
  | true =>
      refine ⟨_, resolve_fresh_terminal now timeout script, ?_⟩
      have refused : Payload.parse [] = .error .empty := rfl
      exact greets_of_refused refused
  | false =>
      refine ⟨_, resolve_fresh fits script, ?_⟩
      rw [conclude_name]
      exact greets_outcome timeout script

/-! ## Why the default name takes the place of a name -/

/-- A source that names somebody is no terminal, and the bytes in it are an
object whose last name is a text that is not empty. -/
inductive Tells : Stream.Source -> String -> Prop
  | name {bytes : Bytes} {entries : List Diagnostics.Entry}
      {members : List (String × Json.Value)} {name : String} :
      Payload.Readable bytes (.object members) -> Payload.Names members name -> name ≠ "" ->
      Tells ⟨false, .ok ⟨.ok bytes, entries⟩⟩ name

/-- A source names nobody for one of four reasons. -/
inductive Lacks : Stream.Source -> Fallback -> Prop
  | terminal {reading : Except Stream.ClockOverflow Stream.Reading} :
      Lacks ⟨true, reading⟩ .terminal
  | unreadable {failure : Stream.Failure} {entries : List Diagnostics.Entry} :
      Lacks ⟨false, .ok ⟨.error failure, entries⟩⟩ (.unreadable failure)
  | unparsable {bytes : Bytes} {entries : List Diagnostics.Entry} {refusal : Payload.Refusal} :
      Payload.parse bytes = .error refusal ->
      Lacks ⟨false, .ok ⟨.ok bytes, entries⟩⟩ (.unparsable refusal)
  | unnamed {bytes : Bytes} {entries : List Diagnostics.Entry}
      {members : List (String × Json.Value)} :
      Payload.Readable bytes (.object members) ->
      (forall name, Payload.Names members name -> name = "") ->
      Lacks ⟨false, .ok ⟨.ok bytes, entries⟩⟩ .unnamed

/-- The name in a source, or why there is none. -/
def nameOrFallback (terminal : Bool) (reading : Stream.Reading) : Except Fallback String :=
  if terminal then .error .terminal else ofReading reading.result

/-- The entries about the read of a source.  A terminal is not read. -/
def readEntries (terminal : Bool) (reading : Stream.Reading) : List Diagnostics.Entry :=
  if terminal then [] else reading.entries

theorem resolve_eq (terminal : Bool) (reading : Stream.Reading) :
    resolve ⟨terminal, .ok reading⟩ =
      .ok (.after (if terminal then 0 else 1)
        (conclude (readEntries terminal reading) (nameOrFallback terminal reading))) := by
  cases terminal with
  | true => exact resolve_terminal _
  | false => exact resolve_reading reading

theorem displayName_ofMembers_iff (members : List (String × Json.Value)) (name : String) :
    (Payload.ofMembers members).displayName = some name ↔
      Payload.Names members name ∧ name ≠ "" := by
  rw [displayName_eq_some_iff, Payload.ofMembers_name_iff]

theorem ofBytes_eq_ok_iff (bytes : Bytes) (name : String) :
    ofBytes bytes = .ok name ↔
      Exists fun members => Payload.Readable bytes (.object members) ∧
        Payload.Names members name ∧ name ≠ "" := by
  constructor
  · intro found
    rw [ofBytes] at found
    split at found
    · cases found
    · next payload parsed =>
        rcases (Payload.parse_eq_ok_iff bytes payload).mp parsed with ⟨members, readable, rfl⟩
        split at found
        · next shown =>
            cases found
            exact ⟨members, readable, (displayName_ofMembers_iff members name).mp shown⟩
        · cases found
  · rintro ⟨members, readable, names⟩
    have parsed := (Payload.parse_eq_ok_iff bytes _).mpr ⟨members, readable, rfl⟩
    simp only [ofBytes, parsed, (displayName_ofMembers_iff members name).mpr names]

theorem ofBytes_of_refused {bytes : Bytes} {refusal : Payload.Refusal}
    (refused : Payload.parse bytes = .error refusal) :
    ofBytes bytes = .error (.unparsable refusal) := by
  rw [ofBytes, refused]

theorem ofBytes_of_unnamed {bytes : Bytes} {members : List (String × Json.Value)}
    (readable : Payload.Readable bytes (.object members))
    (unnamed : forall name, Payload.Names members name -> name = "") :
    ofBytes bytes = .error .unnamed := by
  have parsed := (Payload.parse_eq_ok_iff bytes _).mpr ⟨members, readable, rfl⟩
  have hidden : (Payload.ofMembers members).displayName = none := by
    apply Option.eq_none_iff_forall_ne_some.mpr
    intro name shown
    rcases (displayName_ofMembers_iff members name).mp shown with ⟨names, nonempty⟩
    exact nonempty (unnamed name names)
  simp only [ofBytes, parsed, hidden]

theorem Tells.found {terminal : Bool} {reading : Stream.Reading} {name : String}
    (tells : Tells ⟨terminal, .ok reading⟩ name) : nameOrFallback terminal reading = .ok name := by
  cases tells with
  | name readable names nonempty =>
      exact (ofBytes_eq_ok_iff _ name).mpr ⟨_, readable, names, nonempty⟩

theorem Lacks.found {terminal : Bool} {reading : Stream.Reading} {fallback : Fallback}
    (lacks : Lacks ⟨terminal, .ok reading⟩ fallback) :
    nameOrFallback terminal reading = .error fallback := by
  cases lacks with
  | terminal => rfl
  | unreadable => rfl
  | unparsable refused => exact ofBytes_of_refused refused
  | unnamed readable unnamed => exact ofBytes_of_unnamed readable unnamed

/-- A source names somebody, or there is a reason why not. -/
theorem tells_or_lacks (terminal : Bool) (reading : Stream.Reading) :
    (Exists fun name => Tells ⟨terminal, .ok reading⟩ name) ∨
      Exists fun fallback => Lacks ⟨terminal, .ok reading⟩ fallback := by
  cases terminal with
  | true => exact .inr ⟨_, .terminal⟩
  | false =>
      cases reading with
      | mk result entries =>
          cases result with
          | error failure => exact .inr ⟨_, .unreadable⟩
          | ok bytes =>
              cases parsed : Payload.parse bytes with
              | error refusal => exact .inr ⟨_, .unparsable parsed⟩
              | ok payload =>
                  rcases (Payload.parse_eq_ok_iff bytes payload).mp parsed with
                    ⟨members, readable, _⟩
                  by_cases unnamed : forall name, Payload.Names members name -> name = ""
                  · exact .inr ⟨_, .unnamed readable unnamed⟩
                  · simp only [Classical.not_forall] at unnamed
                    rcases unnamed with ⟨name, names, nonempty⟩
                    exact .inl ⟨name, .name readable names nonempty⟩

theorem entry_level (fallback : Fallback) : fallback.entry.level = .debug := by
  cases fallback <;> rfl

theorem entry_target (fallback : Fallback) : fallback.entry.target = target := by
  cases fallback <;> rfl

/-- Whatever a source is, there is a name to greet, and it is not empty.  A
terminal is not read, so that it makes no difference what a read would give,
and any other source is read once.  After the entries about that read there is
one more exactly if the default name takes the place of a missing one, and it
says why.  A name without such an entry is the last name in the bytes that were
read, even if it is the default name. -/
theorem resolve_explains (terminal : Bool) (reading : Stream.Reading) :
    Exists fun resolution => Exists fun own =>
      resolve ⟨terminal, .ok reading⟩ = .ok resolution ∧
      (terminal = true -> forall other, resolve ⟨terminal, other⟩ = .ok resolution) ∧
      resolution.name ≠ "" ∧
      resolution.reads = (if terminal then 0 else 1) ∧
      resolution.entries = readEntries terminal reading ++ own ∧
      (forall name, Tells ⟨terminal, .ok reading⟩ name -> resolution.name = name ∧ own = []) ∧
      (forall fallback, Lacks ⟨terminal, .ok reading⟩ fallback ->
        resolution.name = "World" ∧ own = [fallback.entry] ∧ fallback.entry.level = .debug ∧
          fallback.entry.target = "greeter::resolver") ∧
      ((Exists fun name => Tells ⟨terminal, .ok reading⟩ name) ∨
        Exists fun fallback => Lacks ⟨terminal, .ok reading⟩ fallback) := by
  have resolved := resolve_eq terminal reading
  have unread : terminal = true -> forall other,
      resolve ⟨terminal, other⟩ = resolve ⟨terminal, .ok reading⟩ := by
    rintro rfl other
    rfl
  have either := tells_or_lacks terminal reading
  rcases tells_or_lacks terminal reading with ⟨name, tells⟩ | ⟨fallback, lacks⟩
  · have named := tells.found
    rw [named] at resolved
    refine ⟨⟨name, _, _⟩, [], resolved, ?_, ?_, rfl, (List.append_nil _).symm, ?_, ?_, either⟩
    · intro closed other
      exact (unread closed other).trans resolved
    · cases tells with
      | name _ _ nonempty => exact nonempty
    · intro other also
      exact ⟨Except.ok.inj (named.symm.trans also.found), rfl⟩
    · intro fallback lacks
      cases named.symm.trans lacks.found
  · have missing := lacks.found
    rw [missing] at resolved
    have nonempty : defaultName ≠ "" := by decide
    refine ⟨⟨defaultName, _, _⟩, [fallback.entry], resolved, ?_, nonempty, rfl, rfl, ?_, ?_,
      either⟩
    · intro closed other
      exact (unread closed other).trans resolved
    · intro name tells
      cases missing.symm.trans tells.found
    · intro other also
      cases missing.symm.trans also.found
      exact ⟨rfl, rfl, entry_level fallback, entry_target fallback⟩

/-- A payload that names the world is greeted without an explanation. -/
theorem resolve_named_world :
    Exists fun resolution =>
      resolve (.ofBytes false (Bytes.ofText "\x7b\"name\":\"World\"\x7d")) = .ok resolution ∧
      resolution.name = "World" ∧ resolution.entries = [] := by
  have named : ofBytes (Bytes.ofText "\x7b\"name\":\"World\"\x7d") = .ok "World" := rfl
  rcases (ofBytes_eq_ok_iff _ _).mp named with ⟨members, readable, names, nonempty⟩
  rcases resolve_explains false (.quiet (.ok (Bytes.ofText "\x7b\"name\":\"World\"\x7d"))) with
    ⟨resolution, own, resolved, _, _, _, entries, told, _, _⟩
  rcases told "World" (.name readable names nonempty) with ⟨same, nothing⟩
  refine ⟨resolution, resolved, same, ?_⟩
  rw [entries, nothing]
  rfl

end Addressee
end Salutation
