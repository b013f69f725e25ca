import Salutation.Stream.Source

namespace Salutation
namespace Stream

/-!
# Buffers

A buffer holds bytes that are already there.  It gives them away at the first
read and is empty afterwards.  A copy starts with whatever the buffer holds at
that moment and shares nothing with it.
-/

/-- Bytes that wait to be read, if any do. -/
structure Buffer where
  pending : Option Bytes
  terminal : Bool
  deriving DecidableEq, Repr

namespace Buffer

def ofBytes (bytes : Bytes) : Buffer := ⟨some bytes, false⟩

/-- A buffer that stands for a terminal. -/
def atTerminal : Buffer := ⟨none, true⟩

/-- A buffer that never held anything. -/
def empty : Buffer := ⟨none, false⟩

/-- The bytes that a read gives. -/
def content (buffer : Buffer) : Bytes := buffer.pending.getD []

/-- The buffer after a read. -/
def drained (buffer : Buffer) : Buffer := { buffer with pending := none }

/-- The source that a copy of the buffer is. -/
def toSource (buffer : Buffer) : Source := .ofBytes buffer.terminal buffer.content

end Buffer
end Stream
end Salutation
