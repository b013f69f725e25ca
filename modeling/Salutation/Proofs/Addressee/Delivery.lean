import Salutation.Proofs.Addressee.Naming
import Salutation.Proofs.Stream.Entries

namespace Salutation

/-!
# Payloads that are delivered in pieces

Bytes can be at hand from the start, or come through a stream in pieces, with
interruptions and delays in between, and the stream can end in every way.  As
long as all of them are in time, this makes no difference to whom they name, to
what is said about it, or to how often they are read.  A stream may leave
entries of its own about the read, and these come from elsewhere.
-/

/-! ## Streams that hand over everything in time -/

namespace Stream

/-- A script that hands over some bytes in pieces, none of which is empty, with
interruptions and with delays of so many milliseconds in all. -/
inductive Hands : Bytes -> Nat -> Script -> Prop
  | nothing : Hands [] 0 []
  | piece {piece bytes : Bytes} {milliseconds : Nat} {rest : Script} :
      piece ≠ [] -> Hands bytes milliseconds rest ->
      Hands (piece ++ bytes) milliseconds (.data piece :: rest)
  | interruption {bytes : Bytes} {milliseconds : Nat} {rest : Script} {error : DeviceError} :
      error.isInterruption = true -> Hands bytes milliseconds rest ->
      Hands bytes milliseconds (.error error :: rest)
  | delay {bytes : Bytes} {milliseconds : Nat} {rest : Script} (longer : Nat) :
      Hands bytes milliseconds rest -> Hands bytes (longer + milliseconds) (.delay longer :: rest)

/-- A script that brings nothing any more: it runs out, or an event ends the
stream, possibly after more interruptions and delays.  What follows such an
event never happens. -/
inductive Finishes : Script -> Prop
  | out : Finishes []
  | ends {event : Event} {ending : Ending} (rest : Script) :
      event.ending? = some ending -> Finishes (event :: rest)
  | interruption {rest : Script} {error : DeviceError} :
      error.isInterruption = true -> Finishes rest -> Finishes (.error error :: rest)
  | delay {rest : Script} (milliseconds : Nat) :
      Finishes rest -> Finishes (.delay milliseconds :: rest)

theorem ending?_of_interruption {error : DeviceError} (interrupted : error.isInterruption = true) :
    (Event.error error).ending? = none := by
  rw [Event.ending?, if_pos interrupted]

theorem ending?_of_piece {piece : Bytes} (nonempty : piece ≠ []) :
    (Event.data piece).ending? = none := by
  cases piece with
  | nil => exact absurd rfl nonempty
  | cons byte bytes => rfl

theorem Finishes.arrivedFrom_eq_nil {script : Script} (finishes : Finishes script)
    (deadline now : Nat) : script.arrivedFrom deadline now = [] := by
  induction finishes generalizing now with
  | out => rfl
  | ends rest ends => exact Script.arrivedFrom_cons_some deadline now rest ends
  | interruption interrupted _ inductionHypothesis =>
      rw [Script.arrivedFrom_cons_none _ _ _ (ending?_of_interruption interrupted),
        inductionHypothesis]
      simp only [Event.bytes, ite_self, List.append_nil]
  | delay milliseconds _ inductionHypothesis =>
      have goesOn : (Event.delay milliseconds).ending? = none := rfl
      rw [Script.arrivedFrom_cons_none _ _ _ goesOn, inductionHypothesis]
      simp only [Event.bytes, ite_self, List.append_nil]

/-- What is handed over before the deadline arrives before the deadline. -/
theorem Hands.arrivedFrom_eq {bytes : Bytes} {milliseconds : Nat} {script ending : Script}
    (hands : Hands bytes milliseconds script) (finishes : Finishes ending) {deadline now : Nat}
    (inTime : now + milliseconds * 1000000 < deadline) :
    Script.arrivedFrom deadline now (script ++ ending) = bytes := by
  induction hands generalizing now with
  | nothing => exact finishes.arrivedFrom_eq_nil deadline now
  | @piece piece bytes milliseconds rest nonempty _ inductionHypothesis =>
      have early : now < deadline := Nat.lt_of_le_of_lt (Nat.le_add_right _ _) inTime
      rw [List.cons_append, Script.arrivedFrom_cons_none _ _ _ (ending?_of_piece nonempty),
        if_pos early]
      exact congrArg (piece ++ ·) (inductionHypothesis inTime)
  | interruption interrupted _ inductionHypothesis =>
      rw [List.cons_append,
        Script.arrivedFrom_cons_none _ _ _ (ending?_of_interruption interrupted)]
      simp only [Event.bytes, Event.duration, ite_self, List.nil_append, Nat.add_zero]
      exact inductionHypothesis inTime
  | delay longer _ inductionHypothesis =>
      have goesOn : (Event.delay longer).ending? = none := rfl
      rw [List.cons_append, Script.arrivedFrom_cons_none _ _ _ goesOn]
      simp only [Event.bytes, Event.duration, ite_self, List.nil_append]
      apply inductionHypothesis
      rw [Nat.add_mul] at inTime
      omega

/-- A read gives all that was handed over, if anything was. -/
theorem Hands.outcome_result {bytes : Bytes} {milliseconds : Nat} {script ending : Script}
    (hands : Hands bytes milliseconds script) (finishes : Finishes ending) (nonempty : bytes ≠ [])
    {timeout : Duration} (inTime : milliseconds * 1000000 < timeout.toNanoseconds) :
    (outcome timeout (script ++ ending)).result = .ok bytes := by
  have early : 0 + milliseconds * 1000000 < timeout.toNanoseconds := by omega
  have arrived : Script.arrived timeout.toNanoseconds (script ++ ending) = bytes :=
    hands.arrivedFrom_eq finishes early
  rcases Stream.outcome_result timeout (script ++ ending) with given | ⟨nothing, _⟩
  · rw [given, arrived]
  · exact absurd (arrived.symm.trans nothing) nonempty

end Stream

/-! ## Whom they name -/

namespace Addressee

/-- The entries that come from a target. -/
def entriesFrom (target : String) (entries : List Diagnostics.Entry) : List Diagnostics.Entry :=
  entries.filter fun entry => entry.target = target

/-- Entries of a read do not add to what is said about the addressee. -/
theorem entriesFrom_conclude {reading : Stream.Reading} (details : Stream.RecordsDetails reading)
    (result : Except Fallback String) :
    entriesFrom "greeter::resolver" (conclude reading.entries result).entries =
      entriesFrom "greeter::resolver" (conclude [] result).entries := by
  have different : Stream.inputTarget ≠ "greeter::resolver" := by decide
  have nothing : entriesFrom "greeter::resolver" reading.entries = [] := by
    rw [entriesFrom, List.filter_eq_nil_iff]
    intro entry member same
    exact different ((details entry member).target.symm.trans (of_decide_eq_true same))
  cases result with
  | ok name => exact nothing
  | error fallback =>
      have parts : entriesFrom "greeter::resolver" (reading.entries ++ [fallback.entry]) =
          entriesFrom "greeter::resolver" reading.entries ++
            entriesFrom "greeter::resolver" [fallback.entry] :=
        List.filter_append ..
      exact parts.trans (by rw [nothing, List.nil_append]; rfl)

/-- A source that leaves details about its read is resolved like one that
leaves none. -/
theorem concluded_alike {source : Stream.Source} {reading : Stream.Reading}
    (details : Stream.RecordsDetails reading) {result : Except Fallback String}
    (resolved : resolve source = .ok (.after 1 (conclude reading.entries result))) :
    Exists fun resolution => resolve source = .ok resolution ∧
      resolution.name = (Resolution.after 1 (conclude [] result)).name ∧ resolution.reads = 1 ∧
      entriesFrom "greeter::resolver" resolution.entries =
        entriesFrom "greeter::resolver" (Resolution.after 1 (conclude [] result)).entries :=
  ⟨_, resolved, by rw [conclude_name, conclude_name], rfl, entriesFrom_conclude details _⟩

/-- A payload greets the same name however it is delivered.  All of it has to
be handed over before the deadline, in pieces of any size and with any
interruptions and delays, and then the stream may end at any time and in any
way.  The same is said about the addressee as of bytes that are at hand, and in
both cases there is one read.  This holds of a stream and of standard input,
unless the clock cannot show the deadline. -/
theorem resolve_delivered {bytes : Bytes} (nonempty : bytes ≠ []) {milliseconds : Nat}
    {script ending : Stream.Script} (hands : Stream.Hands bytes milliseconds script)
    (finishes : Stream.Finishes ending) {timeout : Duration}
    (inTime : milliseconds * 1000000 < timeout.toNanoseconds) :
    Exists fun whole => resolve (Stream.Buffer.ofBytes bytes).toSource = .ok whole ∧
      whole.reads = 1 ∧
      forall now source,
        source = .ofScript false now timeout (script ++ ending) ∨
          source = (Stream.StandardInput.fresh false (script ++ ending) timeout).toSource now ->
        (Stream.deadline? now timeout = none ∧ resolve source = .error {}) ∨
        Exists fun resolution => resolve source = .ok resolution ∧
          resolution.name = whole.name ∧ resolution.reads = 1 ∧
          entriesFrom "greeter::resolver" resolution.entries =
            entriesFrom "greeter::resolver" whole.entries := by
  have given := hands.outcome_result finishes nonempty inTime
  have details := Stream.recordsDetails_outcome timeout (script ++ ending)
  refine ⟨_, resolve_buffer bytes, rfl, ?_⟩
  intro now source delivered
  cases fits : Stream.deadline? now timeout with
  | none =>
      refine .inl ⟨rfl, ?_⟩
      rcases delivered with rfl | rfl
      · exact resolve_script_overflow fits (script ++ ending)
      · exact resolve_fresh_overflow fits (script ++ ending)
  | some clock =>
      refine .inr ?_
      rcases delivered with rfl | rfl
      · apply concluded_alike details
        rw [resolve_script fits, given, ofReading]
      · apply concluded_alike details.announce
        rw [resolve_fresh fits, given, ofReading]

/-- A payload in two pieces with an interruption and a delay between them, on a
stream that fails after the deadline. -/
theorem resolve_two_pieces :
    Exists fun resolution =>
      resolve (.ofScript false ⟨0, 0⟩ ⟨1, 0⟩
        ([.data (Bytes.ofText "\x7b\"name\":"), .error (.plain .interrupted), .delay 200,
          .data (Bytes.ofText "\"Ada\"\x7d")] ++
          [.delay 2000, .error (.plain .brokenPipe)])) = .ok resolution ∧
      resolution.name = "Ada" ∧ resolution.reads = 1 ∧
      entriesFrom "greeter::resolver" resolution.entries = [] := by
  have nonempty : Bytes.ofText "\x7b\"name\":" ++ (Bytes.ofText "\"Ada\"\x7d" ++ []) ≠ [] := by
    decide
  have hands : Stream.Hands (Bytes.ofText "\x7b\"name\":" ++ (Bytes.ofText "\"Ada\"\x7d" ++ []))
      200 [.data (Bytes.ofText "\x7b\"name\":"), .error (.plain .interrupted), .delay 200,
        .data (Bytes.ofText "\"Ada\"\x7d")] :=
    .piece (by decide) (.interruption rfl (.delay 200 (.piece (by decide) .nothing)))
  have finishes : Stream.Finishes [.delay 2000, .error (.plain .brokenPipe)] :=
    .delay 2000 (.ends [] rfl)
  rcases @resolve_delivered _ nonempty _ _ _ hands finishes ⟨1, 0⟩ (by decide) with
    ⟨whole, read, _, holds⟩
  cases read
  rcases holds ⟨0, 0⟩ _ (.inl rfl) with ⟨overflow, _⟩ | found
  · cases overflow
  · exact found

end Addressee
end Salutation
