namespace Salutation

/-!
# Durations

A duration is a number of whole seconds and of nanoseconds that do not make
up another second.  Its text is exact: a decimal number of the largest unit
that does not exceed it, without a trailing zero in the fraction.
-/

structure Duration where
  seconds : Nat
  nanoseconds : Nat
  deriving DecidableEq, Repr

namespace Duration

def nanosecondsPerSecond : Nat := 1000000000

/-- The whole duration in nanoseconds. -/
def toNanoseconds (duration : Duration) : Nat :=
  duration.seconds * nanosecondsPerSecond + duration.nanoseconds

def ofMilliseconds (milliseconds : Nat) : Duration where
  seconds := milliseconds / 1000
  nanoseconds := 1000000 * (milliseconds % 1000)

/-- A fraction of so many decimal places, with its point, less the trailing
zeros.  A fraction of zero is not written. -/
def fractionText (fraction places : Nat) : List Char :=
  let digits := Nat.toDigits 10 fraction
  let padded := List.replicate (places - digits.length) '0' ++ digits
  match (padded.reverse.dropWhile (· == '0')).reverse with
  | [] => []
  | significant => '.' :: significant

/-- A whole number, a fraction of so many places, and a unit. -/
def decimalText (whole fraction places : Nat) (unit : String) : String :=
  String.ofList (Nat.toDigits 10 whole ++ fractionText fraction places) ++ unit

/-- The text of a duration. -/
def text (duration : Duration) : String :=
  let nanoseconds := duration.nanoseconds
  if 0 < duration.seconds then decimalText duration.seconds nanoseconds 9 "s"
  else if 1000000 <= nanoseconds then
    decimalText (nanoseconds / 1000000) (nanoseconds % 1000000) 6 "ms"
  else if 1000 <= nanoseconds then
    decimalText (nanoseconds / 1000) (nanoseconds % 1000) 3 "µs"
  else decimalText nanoseconds 0 0 "ns"

end Duration
end Salutation
