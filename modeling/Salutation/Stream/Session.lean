import Salutation.Stream.StandardInput

namespace Salutation
namespace Stream
namespace StandardInput

/-!
# Sessions at standard input

A session asks standard input one thing after another: whether it is a
terminal, and what it has to give.  Every read happens at some time on the
clock.  A session ends where a deadline is out of the range of the clock.
-/

inductive Step where
  | isTerminal
  | readAll (now : Duration)
  deriving DecidableEq, Repr

inductive Answer where
  | flag (value : Bool)
  | result (value : Except Failure Bytes)

/-- The device that a read starts to read, if it starts to read one. -/
def device? (input : StandardInput) : Option Device :=
  if input.consumed then none else some ⟨0, input.script⟩

/-- What a step comes to: the answer, what is recorded, and the devices that
are read for it from then on. -/
structure Effect where
  answer : Answer
  entries : List Diagnostics.Entry
  devices : List Device

/-- One step. -/
def perform (input : StandardInput) : Step -> Except ClockOverflow (Effect × StandardInput)
  | .isTerminal => .ok (⟨.flag input.terminal, [], []⟩, input)
  | .readAll now =>
      match input.reading now with
      | .error overflow => .error overflow
      | .ok reading =>
          .ok (⟨.result reading.result, reading.entries, input.device?.toList⟩, input.afterRead)

/-- What successive steps come to. -/
def session (input : StandardInput) : List Step -> Except ClockOverflow (List Effect)
  | [] => .ok []
  | step :: steps =>
      match input.perform step with
      | .error overflow => .error overflow
      | .ok (effect, next) => (next.session steps).map (effect :: ·)

end StandardInput
end Stream
end Salutation
