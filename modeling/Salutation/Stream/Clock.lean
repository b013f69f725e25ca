import Salutation.Stream.Arrival

namespace Salutation
namespace Stream

/-!
# The range of the clock

The clock counts seconds in 64 bits with a sign.  A deadline that it cannot
show is not a failure of the read but the end of the program, so that it is
kept apart from everything a read can give.
-/

/-- A deadline out of the range of the clock. -/
structure ClockOverflow where
  deriving DecidableEq, Repr

namespace ClockOverflow

def message : String := "overflow when adding duration to instant"

end ClockOverflow

/-- The first second that the clock cannot show. -/
def clockLimit : Nat := Nat.pow 2 63

/-- The time on the clock after a timeout, if the clock can show it. -/
def deadline? (now timeout : Duration) : Option Duration :=
  let nanoseconds := now.nanoseconds + timeout.nanoseconds
  let seconds :=
    now.seconds + timeout.seconds + nanoseconds / Duration.nanosecondsPerSecond
  if seconds < clockLimit then
    some ⟨seconds, nanoseconds % Duration.nanosecondsPerSecond⟩
  else none

/-- Read a stream until it ends or the time is up, from a given time on. -/
def read (now timeout : Duration) (script : Script) :
    Except ClockOverflow Reading :=
  match deadline? now timeout with
  | none => .error {}
  | some _ => .ok (collect timeout script)

end Stream
end Salutation
