import Salutation.Addressee
import Salutation.Stream.Buffer

namespace Salutation
namespace Stream

/-!
# Shelves of buffers

A shelf is a growing row of buffers, numbered from zero.  Each step works on
one of them or adds one, and gives an answer.  No step changes any buffer but
the one it names.
-/

abbrev Shelf := List Buffer

namespace Shelf

inductive Step where
  | isTerminal (index : Nat)
  | readAll (index : Nat)
  | copy (index : Nat)
  | add (buffer : Buffer)
  | resolve (index : Nat)
  deriving DecidableEq, Repr

inductive Answer where
  | flag (value : Bool)
  | bytes (value : Bytes)
  | index (value : Nat)
  | name (value : String)
  deriving DecidableEq, Repr

/-- The name that a copy of a buffer leads to.  The copy is used up, not the
buffer. -/
def addressee (buffer : Buffer) : String :=
  match Addressee.resolve buffer.toSource with
  | .ok resolution => resolution.name
  | .error _ => defaultName

/-- One step.  A step on a number that is not on the shelf has no answer. -/
def perform (shelf : Shelf) : Step -> Option (Answer × Shelf)
  | .isTerminal index => shelf[index]?.map (fun buffer => (.flag buffer.terminal, shelf))
  | .readAll index =>
      shelf[index]?.map (fun buffer => (.bytes buffer.content, shelf.set index buffer.drained))
  | .copy index => shelf[index]?.map (fun buffer => (.index shelf.length, shelf ++ [buffer]))
  | .add buffer => some (.index shelf.length, shelf ++ [buffer])
  | .resolve index => shelf[index]?.map (fun buffer => (.name (addressee buffer), shelf))

/-- The answers of successive steps, up to the first one without an answer. -/
def answers (shelf : Shelf) : List Step -> List Answer
  | [] => []
  | step :: steps =>
      match shelf.perform step with
      | none => []
      | some (answer, next) => answer :: answers next steps

end Shelf
end Stream
end Salutation
