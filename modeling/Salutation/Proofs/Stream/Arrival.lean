import Salutation.Proofs.Stream.Timeline
import Salutation.Stream.Clock

namespace Salutation
namespace Stream

/-!
# What a read gives

The pump and the collector are two loops, the one over calls with room for so
many bytes and the other over the messages of the first.  Together they give
what the timeline of the script says.  One lemma for each event says what the
pump makes of it, another one says what it means for the timeline, and one
induction over the calls compares the two.
-/

/-! ## The feed, event by event -/

theorem feed_eq (device : Device) :
    feed device =
      match turn device with
      | .chunk bytes later => .sent later.now (.chunk bytes) (feed later)
      | .retry later => feed later
      | .failure error time => .sent time (.failure error) (.closed time)
      | .finished time => .closed time
      | .waiting => .silent := by
  rw [feed]
  cases turn device <;> rfl

theorem feed_nil (now : Nat) : feed ⟨now, []⟩ = .closed now := by
  rw [feed_eq]
  rfl

theorem feed_close (now : Nat) (rest : Script) : feed ⟨now, .close :: rest⟩ = .closed now := by
  rw [feed_eq]
  rfl

theorem feed_empty (now : Nat) (rest : Script) : feed ⟨now, .data [] :: rest⟩ = .closed now := by
  rw [feed_eq]
  rfl

theorem feed_hang (now : Nat) (rest : Script) : feed ⟨now, .hang :: rest⟩ = .silent := by
  rw [feed_eq]
  rfl

/-- A delay passes inside the call. -/
theorem feed_delay (now milliseconds : Nat) (rest : Script) :
    feed ⟨now, .delay milliseconds :: rest⟩ = feed ⟨now + milliseconds * 1000000, rest⟩ := by
  have waits : turn ⟨now, .delay milliseconds :: rest⟩ =
      turn ⟨now + milliseconds * 1000000, rest⟩ := by
    simp only [turn, Device.read, Device.readFrom]
  rw [feed_eq, waits, ← feed_eq]

theorem feed_interruption (now : Nat) {error : DeviceError} (rest : Script)
    (interrupted : error.isInterruption = true) :
    feed ⟨now, .error error :: rest⟩ = feed ⟨now, rest⟩ := by
  rw [feed_eq]
  simp only [turn, Device.read, Device.readFrom, interrupted, if_true]

theorem feed_error (now : Nat) {error : DeviceError} (rest : Script)
    (final : error.isInterruption = false) :
    feed ⟨now, .error error :: rest⟩ = .sent now (.failure error) (.closed now) := by
  rw [feed_eq]
  simp only [turn, Device.read, Device.readFrom, final, Bool.false_eq_true, if_false]

/-- Data is passed on a chunk at a time. -/
theorem feed_data (now : Nat) (byte : UInt8) (bytes : Bytes) (rest : Script) :
    feed ⟨now, .data (byte :: bytes) :: rest⟩ =
      .sent now (.chunk ((byte :: bytes).take chunkSize))
        (feed ⟨now, Device.leave ((byte :: bytes).drop chunkSize) rest⟩) := by
  rw [feed_eq]
  rfl

/-! ## The timeline, event by event -/

/-- What a read gives when the stream ends before the deadline. -/
def endWith (timeout : Duration) (buffer : Bytes) : Ending -> Reading
  | .endOfStream => .quiet (.ok buffer)
  | .failed error => failWith error buffer
  | .blocked => expire timeout buffer

/-- What a read gives according to the timeline, from a given time on and with
some bytes already. -/
def outcomeFrom (timeout : Duration) (now : Nat) (script : Script) (buffer : Bytes) : Reading :=
  let collected := buffer ++ script.arrivedFrom timeout.toNanoseconds now
  if now + script.endingTime < timeout.toNanoseconds then endWith timeout collected script.ending
  else expire timeout collected

/-- What a read gives according to the timeline. -/
def outcome (timeout : Duration) (script : Script) : Reading :=
  outcomeFrom timeout 0 script []

section

variable {timeout : Duration} {now : Nat} {buffer : Bytes}

theorem outcomeFrom_late (script : Script) (late : timeout.toNanoseconds <= now) :
    outcomeFrom timeout now script buffer = expire timeout buffer := by
  have passed : ¬ now + script.endingTime < timeout.toNanoseconds := by omega
  simp only [outcomeFrom, passed, if_false, Script.arrivedFrom_late script late, List.append_nil]

/-- An event that does not end the stream brings its data, if it is in time,
and lets its duration pass. -/
theorem outcomeFrom_cons_none {event : Event} (rest : Script) (goesOn : event.ending? = none) :
    outcomeFrom timeout now (event :: rest) buffer =
      outcomeFrom timeout (now + event.duration) rest
        (if now < timeout.toNanoseconds then buffer ++ event.bytes else buffer) := by
  have times : now + Script.endingTime (event :: rest) =
      now + event.duration + Script.endingTime rest := by
    rw [Script.endingTime, Script.live_cons_none rest goesOn, Script.elapsed,
      Script.endingTime, Nat.add_assoc]
  have collected : buffer ++ Script.arrivedFrom timeout.toNanoseconds now (event :: rest) =
      (if now < timeout.toNanoseconds then buffer ++ event.bytes else buffer) ++
        Script.arrivedFrom timeout.toNanoseconds (now + event.duration) rest := by
    rw [Script.arrivedFrom_cons_none _ _ _ goesOn]
    split
    · rw [List.append_assoc]
    · rw [List.nil_append]
  simp only [outcomeFrom, times, collected, Script.ending_cons_none rest goesOn]

/-- An event that ends the stream decides what the read gives. -/
theorem outcomeFrom_cons_some {event : Event} {ending : Ending} (rest : Script)
    (ends : event.ending? = some ending) :
    outcomeFrom timeout now (event :: rest) buffer =
      if now < timeout.toNanoseconds then endWith timeout buffer ending
      else expire timeout buffer := by
  have times : now + Script.endingTime (event :: rest) = now := by
    rw [Script.endingTime, Script.live_cons_some rest ends]
    rfl
  simp only [outcomeFrom, times, Script.ending_cons_some rest ends,
    Script.arrivedFrom_cons_some _ _ rest ends, List.append_nil]

theorem outcomeFrom_nil :
    outcomeFrom timeout now [] buffer =
      if now < timeout.toNanoseconds then .quiet (.ok buffer) else expire timeout buffer := by
  have nothing : Script.arrivedFrom timeout.toNanoseconds now [] = [] := rfl
  have atOnce : now + Script.endingTime [] = now := rfl
  have ends : Script.ending [] = .endOfStream := rfl
  simp only [outcomeFrom, nothing, atOnce, ends, endWith, List.append_nil]

/-- Data that is left for the next call is not lost. -/
theorem outcomeFrom_leave (remaining : Bytes) (rest : Script)
    (early : now < timeout.toNanoseconds) :
    outcomeFrom timeout now (Device.leave remaining rest) buffer =
      outcomeFrom timeout now rest (buffer ++ remaining) := by
  cases remaining with
  | nil => rw [Device.leave, List.append_nil]
  | cons byte bytes =>
      have goesOn : (Event.data (byte :: bytes)).ending? = none := rfl
      have left : Device.leave (byte :: bytes) rest = .data (byte :: bytes) :: rest := rfl
      rw [left, outcomeFrom_cons_none rest goesOn, if_pos early]
      rfl

end

/-! ## The two loops -/

/-- What is collected from the feed of a device is what the timeline says. -/
theorem collectFrom_feed (timeout : Duration) (script : Script) (now : Nat) (buffer : Bytes) :
    collectFrom timeout (feed ⟨now, script⟩) buffer = outcomeFrom timeout now script buffer := by
  -- Every event and every chunk that is passed on leaves less of the script.
  induction weighed : script.weight using Nat.strongRecOn generalizing script now buffer with
  | ind weight inductionHypothesis =>
      cases script with
      | nil => rw [feed_nil, collectFrom, outcomeFrom_nil]
      | cons event rest =>
          cases event with
          | close => rw [feed_close, collectFrom, outcomeFrom_cons_some rest rfl, endWith]
          | hang => rw [feed_hang, collectFrom, outcomeFrom_cons_some rest rfl, endWith, ite_self]
          | delay milliseconds =>
              have goesOn : (Event.delay milliseconds).ending? = none := rfl
              have shorter : Script.weight rest < weight := by
                simp only [Script.weight] at weighed
                omega
              rw [feed_delay, inductionHypothesis _ shorter _ _ _ rfl,
                outcomeFrom_cons_none rest goesOn]
              simp only [Event.bytes, Event.duration, List.append_nil, ite_self]
          | error error =>
              cases interrupted : error.isInterruption with
              | true =>
                  have goesOn : (Event.error error).ending? = none := by
                    rw [Event.ending?, if_pos interrupted]
                  have shorter : Script.weight rest < weight := by
                    simp only [Script.weight] at weighed
                    omega
                  rw [feed_interruption now rest interrupted,
                    inductionHypothesis _ shorter _ _ _ rfl, outcomeFrom_cons_none rest goesOn]
                  simp only [Event.bytes, Event.duration, List.append_nil, ite_self, Nat.add_zero]
              | false =>
                  have ends : (Event.error error).ending? = some (.failed error) := by
                    rw [Event.ending?, interrupted]
                    rfl
                  rw [feed_error now rest interrupted, collectFrom, react,
                    outcomeFrom_cons_some rest ends, endWith]
          | data bytes =>
              cases bytes with
              | nil => rw [feed_empty, collectFrom, outcomeFrom_cons_some rest rfl, endWith]
              | cons byte bytes =>
                  rw [feed_data, collectFrom, react]
                  by_cases early : now < timeout.toNanoseconds
                  · have goesOn : (Event.data (byte :: bytes)).ending? = none := rfl
                    have shorter := weight_leave byte bytes rest
                    rw [weighed] at shorter
                    rw [if_pos early]
                    simp only
                    rw [inductionHypothesis _ shorter _ _ _ rfl, outcomeFrom_leave _ rest early,
                      outcomeFrom_cons_none rest goesOn, if_pos early, List.append_assoc,
                      List.take_append_drop]
                    rfl
                  · rw [if_neg early, outcomeFrom_late _ (Nat.not_lt.mp early)]

/-- A read gives what the timeline says. -/
theorem collect_eq (timeout : Duration) (script : Script) :
    collect timeout script = outcome timeout script :=
  collectFrom_feed timeout script 0 []

/-! ## What the outcome does not depend on -/

/-- Scripts that come to the same also do so after the same events. -/
theorem outcomeFrom_append {timeout : Duration} {first second : Script}
    (same : forall now buffer,
      outcomeFrom timeout now first buffer = outcomeFrom timeout now second buffer)
    (before : Script) (now : Nat) (buffer : Bytes) :
    outcomeFrom timeout now (before ++ first) buffer =
      outcomeFrom timeout now (before ++ second) buffer := by
  induction before generalizing now buffer with
  | nil => exact same now buffer
  | cons event before inductionHypothesis =>
      rw [List.cons_append, List.cons_append]
      cases found : event.ending? with
      | none =>
          rw [outcomeFrom_cons_none _ found, outcomeFrom_cons_none _ found]
          exact inductionHypothesis _ _
      | some ending => rw [outcomeFrom_cons_some _ found, outcomeFrom_cons_some _ found]

/-- Data may come in one piece or in two. -/
theorem outcome_split_data (timeout : Duration) (before after : Script) {first second : Bytes}
    (leading : first ≠ []) (trailing : second ≠ []) :
    outcome timeout (before ++ .data (first ++ second) :: after) =
      outcome timeout (before ++ .data first :: .data second :: after) := by
  apply outcomeFrom_append
  intro now buffer
  have goesOn {bytes : Bytes} (nonempty : bytes ≠ []) : (Event.data bytes).ending? = none := by
    cases bytes with
    | nil => exact absurd rfl nonempty
    | cons byte bytes => rfl
  have joined : first ++ second ≠ [] := List.append_ne_nil_of_left_ne_nil leading second
  rw [outcomeFrom_cons_none _ (goesOn joined), outcomeFrom_cons_none _ (goesOn leading),
    outcomeFrom_cons_none _ (goesOn trailing)]
  by_cases early : now < timeout.toNanoseconds
  · simp only [Event.duration, Event.bytes, Nat.add_zero, early, if_true, List.append_assoc]
  · simp only [Event.duration, Nat.add_zero, early, if_false]

/-- An interruption may come anywhere or not at all. -/
theorem outcome_interruption (timeout : Duration) (before after : Script) {error : DeviceError}
    (interrupted : error.isInterruption = true) :
    outcome timeout (before ++ .error error :: after) = outcome timeout (before ++ after) := by
  apply outcomeFrom_append
  intro now buffer
  have goesOn : (Event.error error).ending? = none := by
    rw [Event.ending?, if_pos interrupted]
  rw [outcomeFrom_cons_none _ goesOn]
  simp only [Event.duration, Event.bytes, Nat.add_zero, List.append_nil, ite_self]

/-- A delay may come in one piece or in two. -/
theorem outcome_split_delay (timeout : Duration) (before after : Script) (first second : Nat) :
    outcome timeout (before ++ .delay (first + second) :: after) =
      outcome timeout (before ++ .delay first :: .delay second :: after) := by
  apply outcomeFrom_append
  intro now buffer
  have goesOn (milliseconds : Nat) : (Event.delay milliseconds).ending? = none := rfl
  rw [outcomeFrom_cons_none _ (goesOn _), outcomeFrom_cons_none _ (goesOn _),
    outcomeFrom_cons_none _ (goesOn _)]
  simp only [Event.duration, Event.bytes, List.append_nil, ite_self, Nat.add_mul, Nat.add_assoc]

/-! ## Reading -/

theorem read_eq {now timeout clock : Duration} (fits : deadline? now timeout = some clock)
    (script : Script) : read now timeout script = .ok (outcome timeout script) := by
  rw [read, fits, collect_eq]

theorem outcome_of_ending {timeout : Duration} {script : Script} {ending : Ending}
    (ends : script.ending = ending) (early : script.endingTime < timeout.toNanoseconds) :
    outcome timeout script = endWith timeout (script.arrived timeout.toNanoseconds) ending := by
  have inTime : 0 + script.endingTime < timeout.toNanoseconds := by omega
  simp only [outcome, outcomeFrom, inTime, if_true, ends, List.nil_append, Script.arrived]

theorem outcome_of_deadline {timeout : Duration} {script : Script}
    (late : script.ending = .blocked ∨ timeout.toNanoseconds <= script.endingTime) :
    outcome timeout script = expire timeout (script.arrived timeout.toNanoseconds) := by
  by_cases early : script.endingTime < timeout.toNanoseconds
  · rcases late with blocked | late
    · exact outcome_of_ending blocked early
    · exact absurd early (Nat.not_lt.mpr late)
  · have passed : ¬ 0 + script.endingTime < timeout.toNanoseconds := by omega
    simp only [outcome, outcomeFrom, passed, if_false, List.nil_append, Script.arrived]

theorem failWith_eq (error : DeviceError) (buffer : Bytes) :
    failWith error buffer =
      if buffer = [] then ⟨.error (.device error), []⟩
      else ⟨.ok buffer, [⟨.debug, "greeter::input", "read failed after partial input",
        [("error", error.message), ("bytes", toString buffer.length)]⟩]⟩ := by
  cases buffer <;> rfl

theorem expire_eq (timeout : Duration) (buffer : Bytes) :
    expire timeout buffer =
      if buffer = [] then ⟨.error (.timedOut timeout), []⟩
      else ⟨.ok buffer, [⟨.debug, "greeter::input", "deadline reached with stream still open",
        [("bytes", toString buffer.length)]⟩]⟩ := by
  cases buffer <;> rfl

theorem failWith_result (error : DeviceError) (buffer : Bytes) :
    (failWith error buffer).result = .ok buffer ∨
      (buffer = [] ∧ Exists fun failure => (failWith error buffer).result = .error failure) := by
  cases buffer with
  | nil => exact .inr ⟨rfl, _, rfl⟩
  | cons byte bytes => exact .inl rfl

theorem expire_result (timeout : Duration) (buffer : Bytes) :
    (expire timeout buffer).result = .ok buffer ∨
      (buffer = [] ∧ Exists fun failure => (expire timeout buffer).result = .error failure) := by
  cases buffer with
  | nil => exact .inr ⟨rfl, _, rfl⟩
  | cons byte bytes => exact .inl rfl

/-- Whatever a read gives, it gives the bytes that have arrived, and it fails
only when there are none. -/
theorem outcome_result (timeout : Duration) (script : Script) :
    (outcome timeout script).result = .ok (script.arrived timeout.toNanoseconds) ∨
      (script.arrived timeout.toNanoseconds = [] ∧
        Exists fun failure => (outcome timeout script).result = .error failure) := by
  by_cases early : script.endingTime < timeout.toNanoseconds
  · rw [outcome_of_ending rfl early]
    cases script.ending with
    | endOfStream => exact .inl rfl
    | failed error => exact failWith_result error _
    | blocked => exact expire_result timeout _
  · rw [outcome_of_deadline (.inr (Nat.not_lt.mp early))]
    exact expire_result timeout _

/-- A read gives the bytes that arrive before the deadline and before the
stream ends.  It fails only when there are none and the stream fails or the
time is up, and otherwise one entry records what kept it from the end.  Neither
the division of data and delays into events nor interruptions make a
difference. -/
theorem read_until_deadline {now timeout clock : Duration}
    (fits : deadline? now timeout = some clock) :
    (forall script : Script,
      let bytes := script.arrived timeout.toNanoseconds
      (script.ending = .endOfStream -> script.endingTime < timeout.toNanoseconds ->
        read now timeout script = .ok ⟨.ok bytes, []⟩) ∧
      (forall error, script.ending = .failed error ->
        script.endingTime < timeout.toNanoseconds ->
        read now timeout script = .ok (
          if bytes = [] then ⟨.error (.device error), []⟩
          else ⟨.ok bytes, [⟨.debug, "greeter::input", "read failed after partial input",
            [("error", error.message), ("bytes", toString bytes.length)]⟩]⟩)) ∧
      (script.ending = .blocked ∨ timeout.toNanoseconds <= script.endingTime ->
        read now timeout script = .ok (
          if bytes = [] then ⟨.error (.timedOut timeout), []⟩
          else ⟨.ok bytes, [⟨.debug, "greeter::input", "deadline reached with stream still open",
            [("bytes", toString bytes.length)]⟩]⟩))) ∧
    (forall before after first second, first ≠ [] -> second ≠ [] ->
      read now timeout (before ++ .data (first ++ second) :: after) =
        read now timeout (before ++ .data first :: .data second :: after)) ∧
    (forall before after error, error.isInterruption = true ->
      read now timeout (before ++ .error error :: after) = read now timeout (before ++ after)) ∧
    (forall before after first second,
      read now timeout (before ++ .delay (first + second) :: after) =
        read now timeout (before ++ .delay first :: .delay second :: after)) := by
  refine ⟨fun script => ⟨?_, ?_, ?_⟩, ?_, ?_, ?_⟩
  · intro ends early
    rw [read_eq fits, outcome_of_ending ends early]
    rfl
  · intro error ends early
    rw [read_eq fits, outcome_of_ending ends early, endWith, failWith_eq]
  · intro late
    rw [read_eq fits, outcome_of_deadline late, expire_eq]
  · intro before after first second leading trailing
    rw [read_eq fits, read_eq fits, outcome_split_data timeout before after leading trailing]
  · intro before after error interrupted
    rw [read_eq fits, read_eq fits, outcome_interruption timeout before after interrupted]
  · intro before after first second
    rw [read_eq fits, read_eq fits, outcome_split_delay]

/-- A stream that stays open after its first byte. -/
theorem read_open_stream :
    read ⟨0, 0⟩ ⟨1, 0⟩ [.data [0x61], .error (.plain .interrupted), .delay 2000, .data [0x62]] =
      .ok ⟨.ok [0x61], [⟨.debug, "greeter::input", "deadline reached with stream still open",
        [("bytes", "1")]⟩]⟩ := by
  have given := (@read_until_deadline ⟨0, 0⟩ ⟨1, 0⟩ ⟨1, 0⟩ rfl).1
    [.data [0x61], .error (.plain .interrupted), .delay 2000, .data [0x62]]
  have arrived : Script.arrived (Duration.toNanoseconds ⟨1, 0⟩)
      [.data [0x61], .error (.plain .interrupted), .delay 2000, .data [0x62]] = [0x61] := by
    decide
  rw [arrived] at given
  exact given.2.2 (.inr (by decide))

end Stream
end Salutation
