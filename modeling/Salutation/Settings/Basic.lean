import Salutation.Duration
import Salutation.Json.Record

namespace Salutation

/-!
# Settings

Two settings can be made: how long to wait for input, and whether to sign the
greeting.  They are a record with defaults, so that a file need not mention
either.  A timeout of zero is a well-formed setting and an invalid one.
-/

structure Settings where
  timeoutMilliseconds : Nat
  showRuntime : Bool
  deriving DecidableEq, Repr

namespace Settings

def defaults : Settings := ⟨250, false⟩

def timeoutField : Json.Field Settings where
  name := "read_timeout_ms"
  read := fun settings input =>
    match Json.readNatural input with
    | .error fault => .error fault
    | .ok (value, rest) => .ok ({ settings with timeoutMilliseconds := value }, rest)

def runtimeField : Json.Field Settings where
  name := "show_runtime"
  read := fun settings input =>
    match Json.readBoolean input with
    | .error fault => .error fault
    | .ok (value, rest) => .ok ({ settings with showRuntime := value }, rest)

/-- The settings as a record of two fields. -/
def reader : Json.Reader Settings :=
  Json.Record.read "struct Config" [timeoutField, runtimeField] defaults

/-- Read a whole input as a record. -/
def decode (input : Bytes) : Except Json.Complaint Settings :=
  Json.readAll reader input

/-- Whether there is any time to wait. -/
def isValid (settings : Settings) : Bool :=
  settings.timeoutMilliseconds != 0

/-- How long to wait for input. -/
def timeout (settings : Settings) : Duration :=
  .ofMilliseconds settings.timeoutMilliseconds

end Settings
end Salutation
