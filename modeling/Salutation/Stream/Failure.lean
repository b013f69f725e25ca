import Salutation.Duration
import Salutation.Stream.SystemError

namespace Salutation
namespace Stream

/-!
# Why nothing could be read

A device fails with an error of its own, which is described by a kind, by a
message, or by a number of the system.  A read fails because its device does,
or because nothing has arrived when its time is up.
-/

/-- The kinds of device errors that can be told apart. -/
inductive ErrorKind where
  | notFound
  | permissionDenied
  | connectionReset
  | brokenPipe
  | wouldBlock
  | invalidInput
  | invalidData
  | timedOut
  | writeZero
  | interrupted
  | unexpectedEnd
  | other
  deriving DecidableEq, Repr

namespace ErrorKind

def description : ErrorKind -> String
  | .notFound => "entity not found"
  | .permissionDenied => "permission denied"
  | .connectionReset => "connection reset"
  | .brokenPipe => "broken pipe"
  | .wouldBlock => "operation would block"
  | .invalidInput => "invalid input parameter"
  | .invalidData => "invalid data"
  | .timedOut => "timed out"
  | .writeZero => "write zero"
  | .interrupted => "operation interrupted"
  | .unexpectedEnd => "unexpected end of file"
  | .other => "other error"

end ErrorKind

/-- An error of a device: a kind alone, a kind with a message, or a number of
the system. -/
inductive DeviceError where
  | plain (kind : ErrorKind)
  | described (kind : ErrorKind) (message : String)
  | numbered (number : Nat)
  deriving DecidableEq, Repr

namespace DeviceError

/-- A message replaces the description of the kind. -/
def message : DeviceError -> String
  | .plain kind => kind.description
  | .described _ message => message
  | .numbered number =>
      describeSystemError number ++ " (os error " ++ toString number ++ ")"

/-- An interruption is told by the kind alone.  It says nothing about the
stream: the read is tried again. -/
def isInterruption : DeviceError -> Bool
  | .plain kind => kind == .interrupted
  | .described kind _ => kind == .interrupted
  | .numbered number => number == interruptedCall

end DeviceError

/-- Why a read gave nothing. -/
inductive Failure where
  | device (error : DeviceError)
  | timedOut (timeout : Duration)
  deriving DecidableEq, Repr

namespace Failure

def message : Failure -> String
  | .device error => "failed to read input: " ++ error.message
  | .timedOut timeout => "no input arrived within " ++ timeout.text

end Failure
end Stream
end Salutation
