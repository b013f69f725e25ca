import Salutation.Stream.Clock

namespace Salutation
namespace Stream

/-!
# Sources

A source is what a payload can be read from: it may be a terminal, where a
read would wait for a person, and it gives something when it is read.  Nothing
else can be asked of it.
-/

structure Source where
  terminal : Bool
  reading : Except ClockOverflow Reading

namespace Source

/-- What can be asked of a source. -/
inductive Question where
  | isTerminal
  | readAll
  deriving DecidableEq, Repr

def Question.Answer : Question -> Type
  | .isTerminal => Bool
  | .readAll => Reading

def answer (source : Source) : (question : Question) -> Except ClockOverflow question.Answer
  | .isTerminal => .ok source.terminal
  | .readAll => source.reading

/-- A source that has its bytes at hand. -/
def ofBytes (terminal : Bool) (bytes : Bytes) : Source :=
  ⟨terminal, .ok (.quiet (.ok bytes))⟩

/-- A source that cannot be read. -/
def failing (terminal : Bool) (failure : Failure) : Source :=
  ⟨terminal, .ok (.quiet (.error failure))⟩

/-- A stream that is read until a deadline. -/
def ofScript (terminal : Bool) (now timeout : Duration) (script : Script) : Source :=
  ⟨terminal, read now timeout script⟩

end Source
end Stream
end Salutation
