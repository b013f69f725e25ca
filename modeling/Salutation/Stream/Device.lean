import Salutation.Bytes
import Salutation.Stream.Failure

namespace Salutation
namespace Stream

/-!
# Devices

A device is what a stream is read from, one call at a time.  It goes through a
script of events on a clock of its own, which moves only by the delays in the
script.  A delay passes inside the call that meets it, and data that a call has
no room for waits for the next call.
-/

/-- What a stream does next.  Data without bytes is the end of the stream. -/
inductive Event where
  | data (bytes : Bytes)
  | error (error : DeviceError)
  | delay (milliseconds : Nat)
  | hang
  | close
  deriving DecidableEq, Repr

/-- The events of a stream in order.  After the last one the stream ends. -/
abbrev Script := List Event

/-- A bound for the calls that a script can answer before its end. -/
def Script.weight : Script -> Nat
  | [] => 0
  | .data bytes :: rest => bytes.length + 1 + weight rest
  | _ :: rest => 1 + weight rest

/-- A device with the time on its clock, in nanoseconds, and with the events
that are still to come. -/
structure Device where
  now : Nat
  script : Script
  deriving DecidableEq, Repr

/-- What a call comes to, if it returns.  No bytes are the end of the stream. -/
inductive Delivery where
  | bytes (bytes : Bytes)
  | failed (error : DeviceError)
  | never
  deriving DecidableEq, Repr

namespace Device

/-- The events after a call that took some bytes and left others. -/
def leave (remaining : Bytes) (rest : Script) : Script :=
  match remaining with
  | [] => rest
  | _ => .data remaining :: rest

/-- One call from a given time on, with room for so many bytes.  The end of a
stream is its end for good. -/
def readFrom (capacity now : Nat) : Script -> Delivery × Device
  | [] => (.bytes [], ⟨now, []⟩)
  | .close :: _ => (.bytes [], ⟨now, []⟩)
  | .data [] :: _ => (.bytes [], ⟨now, []⟩)
  | .data (byte :: bytes) :: rest =>
      (.bytes ((byte :: bytes).take capacity), ⟨now, leave ((byte :: bytes).drop capacity) rest⟩)
  | .error error :: rest => (.failed error, ⟨now, rest⟩)
  | .delay milliseconds :: rest => readFrom capacity (now + milliseconds * 1000000) rest
  | .hang :: rest => (.never, ⟨now, .hang :: rest⟩)

def read (capacity : Nat) (device : Device) : Delivery × Device :=
  readFrom capacity device.now device.script

end Device
end Stream
end Salutation
