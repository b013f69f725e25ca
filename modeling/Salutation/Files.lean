import Salutation.Bytes
import Salutation.Stream.Failure

namespace Salutation

/-!
# Files

A path names something or nothing.  What it names need not be a file, and what
exists need not be readable.
-/

/-- What a path names.  Everything that keeps the system from finding something
at a path makes it missing, a component that is no directory included. -/
inductive Node where
  | missing
  | directory
  | unreadable (error : Stream.DeviceError)
  | file (content : Bytes)
  deriving DecidableEq, Repr

/-- What every path names. -/
abbrev Files := String -> Node

end Salutation
