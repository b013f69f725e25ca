import Salutation.Stream.Session
import Salutation.Proofs.Stream.Arrival

namespace Salutation
namespace Stream
namespace StandardInput

/-!
# The one read of a session

A read sets its mark before it starts, whatever comes of it.  So the first read
of a session is the only one that starts to read a device: it gives what the
stream gives before the deadline, bytes or a failure, and every later one gives
no bytes and leaves nothing behind.  To ask for a terminal changes nothing, and
the answer is always the same.
-/

/-! ## Steps -/

/-- Whether a step reads. -/
def Step.reads : Step -> Bool
  | .isTerminal => false
  | .readAll _ => true

/-- Whether an effect is the one of a read. -/
def Effect.reads (effect : Effect) : Bool :=
  match effect.answer with
  | .flag _ => false
  | .result _ => true

/-- What a step comes to that reads no device. -/
def idle (terminal : Bool) : Step -> Effect
  | .isTerminal => ⟨.flag terminal, [], []⟩
  | .readAll _ => ⟨.result (.ok []), [], []⟩

/-- What is recorded about a read of standard input beside what the stream
records: the size of what was read, and nothing if it failed. -/
def announcement : Except Failure Bytes -> List Diagnostics.Entry
  | .ok bytes => [⟨.debug, "greeter::input", "read stdin", [("bytes", toString bytes.length)]⟩]
  | .error _ => []

/-- What the one read of a device comes to. -/
def fulfilled (script : Script) (reading : Reading) : Effect where
  answer := .result reading.result
  entries := reading.entries ++ announcement reading.result
  devices := [⟨0, script⟩]

theorem announce_eq (reading : Reading) :
    announce reading = ⟨reading.result, reading.entries ++ announcement reading.result⟩ := by
  rcases reading with ⟨result, entries⟩
  cases result with
  | ok bytes => rfl
  | error failure => rw [announce, announcement, List.append_nil]

/-- What a read gives comes from the device that it starts to read, and from
nothing else. -/
theorem reading_of_device (now : Duration) (input : StandardInput) :
    input.reading now =
      match input.device? with
      | none => .ok (.quiet (.ok []))
      | some device =>
          match deadline? now input.timeout with
          | none => .error {}
          | some _ => .ok (announce (collectFrom input.timeout (feed device) [])) := by
  cases marked : input.consumed with
  | true => simp only [reading, device?, marked, if_true]
  | false =>
      simp only [reading, device?, marked, Bool.false_eq_true, if_false, Stream.read]
      cases deadline? now input.timeout with
      | none => rfl
      | some clock => rfl

/-- A step that reads no device and leaves standard input as it is. -/
def IsIdle (input : StandardInput) (step : Step) : Prop :=
  input.perform step = .ok (idle input.terminal step, input)

theorem isIdle_isTerminal (input : StandardInput) : IsIdle input .isTerminal := rfl

/-- Once the mark is set, no step does anything. -/
theorem isIdle_of_consumed {input : StandardInput} (marked : input.consumed = true) (step : Step) :
    IsIdle input step := by
  cases step with
  | isTerminal => exact isIdle_isTerminal input
  | readAll now =>
      have same : input.afterRead = input := by
        rw [afterRead, ← marked]
      simp only [IsIdle, perform, reading, device?, marked, if_true, same]
      rfl

section

variable {terminal : Bool} {now timeout : Duration} {script : Script} {reading : Reading}

/-- As long as the mark is not set, a read gives what the stream gives. -/
theorem reading_fresh (read : Stream.read now timeout script = .ok reading) :
    (fresh terminal script timeout).reading now = .ok (announce reading) := by
  simp only [StandardInput.reading, Bool.false_eq_true, if_false, fresh, read]

/-- The first read reads its device until the deadline, and sets the mark
whether it fails or not. -/
theorem perform_fresh (read : Stream.read now timeout script = .ok reading) :
    (fresh terminal script timeout).perform (.readAll now) =
      .ok (fulfilled script reading, (fresh terminal script timeout).afterRead) := by
  rw [perform, reading_fresh read, announce_eq]
  rfl

end

/-! ## Runs -/

/-- Idle steps leave everything to the steps after them. -/
theorem session_append {input : StandardInput} {before : List Step}
    (unread : forall step, step ∈ before -> IsIdle input step) (after : List Step) :
    input.session (before ++ after) =
      (input.session after).map (before.map (idle input.terminal) ++ ·) := by
  induction before with
  | nil =>
      rw [List.nil_append]
      cases input.session after with
      | error overflow => rfl
      | ok effects => rfl
  | cons step before inductionHypothesis =>
      have here : input.perform step = .ok (idle input.terminal step, input) :=
        unread step List.mem_cons_self
      rw [List.cons_append, session, here]
      simp only
      rw [inductionHypothesis fun other member => unread other (List.mem_cons_of_mem _ member)]
      cases input.session after with
      | error overflow => rfl
      | ok effects => rfl

theorem session_idle {input : StandardInput} {steps : List Step}
    (unread : forall step, step ∈ steps -> IsIdle input step) :
    input.session steps = .ok (steps.map (idle input.terminal)) := by
  have whole := session_append unread []
  rw [List.append_nil] at whole
  rw [whole, session, Except.map, List.append_nil]

/-- The questions for a terminal make no difference to what the reads come to. -/
theorem session_filter (input : StandardInput) (steps : List Step) :
    input.session (steps.filter Step.reads) =
      (input.session steps).map (List.filter Effect.reads) := by
  induction steps generalizing input with
  | nil => rfl
  | cons step steps inductionHypothesis =>
      cases step with
      | isTerminal =>
          have here : input.perform .isTerminal = .ok (idle input.terminal .isTerminal, input) :=
            rfl
          have skipped : List.filter Step.reads (.isTerminal :: steps) = steps.filter Step.reads :=
            rfl
          rw [skipped, inductionHypothesis, session, here]
          simp only
          cases input.session steps with
          | error overflow => rfl
          | ok effects => rfl
      | readAll now =>
          have kept : List.filter Step.reads (.readAll now :: steps) =
              .readAll now :: steps.filter Step.reads := rfl
          rw [kept, session, session, perform]
          cases input.reading now with
          | error overflow => rfl
          | ok reading =>
              simp only
              rw [inductionHypothesis]
              cases input.afterRead.session steps with
              | error overflow => rfl
              | ok effects => rfl

/-- A session of standard input reads once.  The first read gives what the
stream gives until the deadline.  It records what the stream records, and after
that the number of bytes exactly if there is no failure.  Every later read gives
no bytes, records nothing and reads no device, also when the first one has
failed; and no read gives anything but what comes from the device that it starts
to read.  To ask for a terminal tells whether there is one and makes no
difference anywhere. -/
theorem session_reads_once (terminal : Bool) (script : Script) (timeout : Duration) :
    (forall steps, (forall step, step ∈ steps -> step.reads = false) ->
      (fresh terminal script timeout).session steps = .ok (steps.map (idle terminal))) ∧
    (forall before now clock after, (forall step, step ∈ before -> step.reads = false) ->
      deadline? now timeout = some clock ->
      Exists fun reading =>
        Stream.read now timeout script = .ok reading ∧
        (fresh terminal script timeout).session (before ++ .readAll now :: after) =
          .ok (before.map (idle terminal) ++
            fulfilled script reading :: after.map (idle terminal))) ∧
    (forall steps, (fresh terminal script timeout).session (steps.filter Step.reads) =
      ((fresh terminal script timeout).session steps).map (List.filter Effect.reads)) ∧
    forall now (input : StandardInput), input.reading now =
      match input.device? with
      | none => .ok (.quiet (.ok []))
      | some device =>
          match deadline? now input.timeout with
          | none => .error {}
          | some _ => .ok (announce (collectFrom input.timeout (feed device) [])) := by
  have unread {steps : List Step} (questions : forall step, step ∈ steps -> step.reads = false) :
      forall step, step ∈ steps -> IsIdle (fresh terminal script timeout) step := by
    intro step member
    cases step with
    | isTerminal => exact isIdle_isTerminal _
    | readAll now => cases questions _ member
  refine ⟨?_, ?_, ?_, reading_of_device⟩
  · intro steps questions
    exact session_idle (unread questions)
  · intro before now clock after questions fits
    have read := read_eq fits script
    have marked : ((fresh terminal script timeout).afterRead).consumed = true := rfl
    have later := session_idle fun step (_ : step ∈ after) => isIdle_of_consumed marked step
    refine ⟨_, read, ?_⟩
    rw [session_append (unread questions), session, perform_fresh read]
    simp only [later, Except.map]
    rfl
  · intro steps
    exact session_filter _ steps

/-- A terminal at which nobody writes: the first read runs out of time, and the
second one gives nothing at once. -/
theorem session_after_timeout :
    (fresh true [.hang] ⟨0, 50000000⟩).session
        [.isTerminal, .readAll ⟨7, 0⟩, .readAll ⟨8, 0⟩, .isTerminal] =
      .ok [⟨.flag true, [], []⟩,
        ⟨.result (.error (.timedOut ⟨0, 50000000⟩)), [], [⟨0, [.hang]⟩]⟩,
        ⟨.result (.ok []), [], []⟩, ⟨.flag true, [], []⟩] := by
  have fits : deadline? ⟨7, 0⟩ ⟨0, 50000000⟩ = some ⟨7, 50000000⟩ := rfl
  have question : forall step, step ∈ [Step.isTerminal] -> step.reads = false := by decide
  rcases (session_reads_once true [.hang] ⟨0, 50000000⟩).2.1 [.isTerminal] ⟨7, 0⟩ _
    [.readAll ⟨8, 0⟩, .isTerminal] question fits with ⟨reading, read, run⟩
  rw [read_eq fits, outcome_of_deadline (.inl rfl), Except.ok.injEq] at read
  rw [← read] at run
  exact run

end StandardInput
end Stream
end Salutation
