import Salutation.Diagnostics.Entry
import Salutation.Stream.Pump

namespace Salutation
namespace Stream

/-!
# Reading until a deadline

A read takes what its feed brings before the deadline and stops at the first of
three things: the end of the stream, an error that is not an interruption, and
the deadline.  What has arrived by then is never thrown away: only a read that
has nothing to show fails.
-/

/-- What reading gives, together with the entries about it. -/
abbrev Reading := Diagnostics.Logged (Except Failure Bytes)

/-- Where entries about reading come from. -/
def inputTarget : String := "greeter::input"

def partialEntry (error : DeviceError) (bytes : Bytes) : Diagnostics.Entry where
  level := .debug
  target := inputTarget
  message := "read failed after partial input"
  fields := [("error", error.message), ("bytes", toString bytes.length)]

def openEntry (bytes : Bytes) : Diagnostics.Entry where
  level := .debug
  target := inputTarget
  message := "deadline reached with stream still open"
  fields := [("bytes", toString bytes.length)]

/-- What a read gives when the stream fails. -/
def failWith (error : DeviceError) (buffer : Bytes) : Reading :=
  if buffer.isEmpty then .quiet (.error (.device error))
  else .noting (.ok buffer) (partialEntry error buffer)

/-- What a read gives when the time is up. -/
def expire (timeout : Duration) (buffer : Bytes) : Reading :=
  if buffer.isEmpty then .quiet (.error (.timedOut timeout))
  else .noting (.ok buffer) (openEntry buffer)

/-- What a read does about a message: it goes on with more bytes, or it is
done. -/
inductive Reaction where
  | goOn (buffer : Bytes)
  | finish (reading : Reading)

def react (buffer : Bytes) : Message -> Reaction
  | .chunk bytes => .goOn (buffer ++ bytes)
  | .failure error => .finish (failWith error buffer)

/-- The rest of a read that has some bytes already.  Times are nanoseconds; a
message counts only if its time is before the deadline. -/
def collectFrom (timeout : Duration) : Feed -> Bytes -> Reading
  | .silent, buffer => expire timeout buffer
  | .closed time, buffer =>
      if time < timeout.toNanoseconds then .quiet (.ok buffer) else expire timeout buffer
  | .sent time message rest, buffer =>
      if time < timeout.toNanoseconds then
        match react buffer message with
        | .goOn longer => collectFrom timeout rest longer
        | .finish reading => reading
      else expire timeout buffer

/-- Read a stream until it ends or the time is up. -/
def collect (timeout : Duration) (script : Script) : Reading :=
  collectFrom timeout (feed ⟨0, script⟩) []

end Stream
end Salutation
