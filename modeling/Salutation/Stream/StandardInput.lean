import Salutation.Stream.Source

namespace Salutation
namespace Stream

/-!
# Standard input

Standard input may be a terminal, which the system knows, and what arrives there
is a script.  The process reads it at most once: the mark that says so is set
before the read, so that a read that failed is not tried again.  A later read
finds nothing, and records nothing.
-/

/-- What standard input is attached to when it is no terminal.  A pipe whose
writing end stays open never ends. -/
inductive Attachment where
  | pipe (bytes : Bytes) (heldOpen : Bool)
  | file (bytes : Bytes)
  | nullDevice
  | directory
  deriving DecidableEq, Repr

namespace Attachment

/-- Bytes that are there from the start.  No bytes are no event. -/
def arriving (bytes : Bytes) : Script :=
  match bytes with
  | [] => []
  | _ => [.data bytes]

def script : Attachment -> Script
  | .pipe bytes heldOpen => arriving bytes ++ (if heldOpen then [.hang] else [.close])
  | .file bytes => arriving bytes ++ [.close]
  | .nullDevice => [.close]
  | .directory => [.error (.numbered readOfDirectory)]

end Attachment

/-- Standard input with the timeout of its one read. -/
structure StandardInput where
  terminal : Bool
  script : Script
  timeout : Duration
  consumed : Bool
  deriving DecidableEq, Repr

namespace StandardInput

def fresh (terminal : Bool) (script : Script) (timeout : Duration) : StandardInput :=
  ⟨terminal, script, timeout, false⟩

def readEntry (bytes : Bytes) : Diagnostics.Entry where
  level := .debug
  target := inputTarget
  message := "read stdin"
  fields := [("bytes", toString bytes.length)]

/-- Record the size of what was read, if anything could be. -/
def announce (reading : Reading) : Reading :=
  match reading.result with
  | .error _ => reading
  | .ok bytes => ⟨reading.result, reading.entries ++ [readEntry bytes]⟩

/-- What a read gives at this point. -/
def reading (now : Duration) (input : StandardInput) : Except ClockOverflow Reading :=
  if input.consumed then .ok (.quiet (.ok []))
  else
    match read now input.timeout input.script with
    | .error overflow => .error overflow
    | .ok reading => .ok (announce reading)

/-- The state after a read, whatever the read gave. -/
def afterRead (input : StandardInput) : StandardInput := { input with consumed := true }

def toSource (now : Duration) (input : StandardInput) : Source :=
  ⟨input.terminal, input.reading now⟩

end StandardInput
end Stream
end Salutation
