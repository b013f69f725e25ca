import Salutation.Stream.Device

namespace Salutation
namespace Stream

/-!
# Scripts as timelines

A script is described here without any reader.  Every event has a time, which
is the sum of the delays before it.  The first event that ends the stream, if
there is one, says how the stream ends, and a script that runs out ends it as
well.  What has arrived before a deadline is the data of all live events with
an earlier time.
-/

/-- How a stream ends: by itself, by an error, or by never saying anything
again. -/
inductive Ending where
  | endOfStream
  | failed (error : DeviceError)
  | blocked
  deriving DecidableEq, Repr

namespace Event

/-- How long an event takes, in nanoseconds. -/
def duration : Event -> Nat
  | .delay milliseconds => milliseconds * 1000000
  | _ => 0

/-- The data that comes with an event. -/
def bytes : Event -> Bytes
  | .data bytes => bytes
  | _ => []

/-- The end of the stream that an event is, if it is one.  An interruption is
none. -/
def ending? : Event -> Option Ending
  | .data [] => some .endOfStream
  | .close => some .endOfStream
  | .error problem => if problem.isInterruption then none else some (.failed problem)
  | .hang => some .blocked
  | _ => none

end Event

namespace Script

/-- The events before the end of the stream. -/
def live (script : Script) : Script :=
  script.takeWhile fun event => event.ending?.isNone

/-- How the stream ends. -/
def ending (script : Script) : Ending :=
  (script.findSome? Event.ending?).getD .endOfStream

/-- The sum of all delays. -/
def elapsed : Script -> Nat
  | [] => 0
  | event :: rest => event.duration + elapsed rest

/-- Every event with its time, from a given time on. -/
def timed (now : Nat) : Script -> List (Nat × Event)
  | [] => []
  | event :: rest => (now, event) :: timed (now + event.duration) rest

/-- The data of all live events. -/
def content (script : Script) : Bytes :=
  script.live.flatMap Event.bytes

/-- The data of the live events with a time before the deadline. -/
def arrivedFrom (deadline now : Nat) (script : Script) : Bytes :=
  ((script.live.timed now).filter fun timed => timed.1 < deadline).flatMap fun timed =>
    timed.2.bytes

/-- The data that arrives before the deadline. -/
def arrived (deadline : Nat) (script : Script) : Bytes :=
  script.arrivedFrom deadline 0

/-- When the stream ends. -/
def endingTime (script : Script) : Nat :=
  script.live.elapsed

/-! ## Live events -/

theorem live_cons_none {event : Event} (rest : Script) (goesOn : event.ending? = none) :
    live (event :: rest) = event :: live rest := by
  rw [live, List.takeWhile_cons, goesOn]
  rfl

theorem live_cons_some {event : Event} {ending : Ending} (rest : Script)
    (ends : event.ending? = some ending) : live (event :: rest) = [] := by
  rw [live, List.takeWhile_cons, ends]
  rfl

theorem ending_cons_none {event : Event} (rest : Script) (goesOn : event.ending? = none) :
    ending (event :: rest) = ending rest := by
  rw [ending, List.findSome?_cons, goesOn, ending]

theorem ending_cons_some {event : Event} {found : Ending} (rest : Script)
    (ends : event.ending? = some found) : ending (event :: rest) = found := by
  rw [ending, List.findSome?_cons, ends]
  rfl

/-! ## What has arrived -/

theorem arrivedFrom_cons_none {event : Event} (deadline now : Nat) (rest : Script)
    (goesOn : event.ending? = none) :
    arrivedFrom deadline now (event :: rest) =
      (if now < deadline then event.bytes else []) ++
        arrivedFrom deadline (now + event.duration) rest := by
  rw [arrivedFrom, live_cons_none rest goesOn, timed, List.filter_cons]
  by_cases early : now < deadline
  · simp only [early, decide_true, if_true, List.flatMap_cons]
    rfl
  · simp only [early, decide_false, Bool.false_eq_true, if_false, List.nil_append]
    rfl

theorem arrivedFrom_cons_some {event : Event} {ending : Ending} (deadline now : Nat)
    (rest : Script) (ends : event.ending? = some ending) :
    arrivedFrom deadline now (event :: rest) = [] := by
  rw [arrivedFrom, live_cons_some rest ends]
  rfl

/-- Nothing arrives before a deadline that has passed. -/
theorem arrivedFrom_late {deadline now : Nat} (script : Script) (late : deadline <= now) :
    arrivedFrom deadline now script = [] := by
  induction script generalizing now with
  | nil => rfl
  | cons event rest inductionHypothesis =>
      cases found : event.ending? with
      | none =>
          have passed : ¬ now < deadline := Nat.not_lt.mpr late
          rw [arrivedFrom_cons_none _ _ _ found, if_neg passed, List.nil_append]
          exact inductionHypothesis (Nat.le_trans late (Nat.le_add_right _ _))
      | some ending => exact arrivedFrom_cons_some _ _ _ found

theorem content_cons_none {event : Event} (rest : Script) (goesOn : event.ending? = none) :
    content (event :: rest) = event.bytes ++ content rest := by
  rw [content, live_cons_none rest goesOn, List.flatMap_cons, content]

/-- What has arrived is the beginning of the data. -/
theorem arrivedFrom_isPrefix_content (deadline now : Nat) (script : Script) :
    List.IsPrefix (arrivedFrom deadline now script) (content script) := by
  induction script generalizing now with
  | nil => exact List.nil_prefix
  | cons event rest inductionHypothesis =>
      cases found : event.ending? with
      | some ending =>
          rw [arrivedFrom_cons_some _ _ _ found]
          exact List.nil_prefix
      | none =>
          rw [content_cons_none rest found, arrivedFrom_cons_none _ _ _ found]
          by_cases early : now < deadline
          · rw [if_pos early]
            exact (List.prefix_append_right_inj _).mpr (inductionHypothesis _)
          · have late := Nat.not_lt.mp early
            rw [if_neg early, arrivedFrom_late rest (Nat.le_trans late (Nat.le_add_right _ _))]
            exact List.nil_prefix

end Script
end Stream
end Salutation
