import Salutation.Inquiry
import Salutation.Line
import Salutation.Payload
import Salutation.Stream.Source

namespace Salutation

/-!
# Whom to greet

The addressee is the name in the payload of a source.  When there is none,
the default name takes its place, and exactly then one entry says why.  The
source is asked whether it is a terminal.  A terminal is not read at all, and
any other source is read once.
-/

namespace Addressee

/-- A name, how often the source was read for it, and what was recorded. -/
structure Resolution where
  name : String
  reads : Nat
  entries : List Diagnostics.Entry
  deriving DecidableEq, Repr

/-- Where entries about addressees come from. -/
def target : String := "greeter::resolver"

/-- Why the default name takes the place of a name. -/
inductive Fallback where
  | terminal
  | unreadable (failure : Stream.Failure)
  | unparsable (refusal : Payload.Refusal)
  | unnamed
  deriving DecidableEq, Repr

namespace Fallback

/-- The entry that explains a fallback. -/
def entry (fallback : Fallback) : Diagnostics.Entry :=
  let explain (message : String) (fields : List (String × String)) : Diagnostics.Entry :=
    ⟨.debug, target, message, fields⟩
  match fallback with
  | .terminal => explain "input is a terminal, skipping read" []
  | .unreadable failure => explain "no usable input" [("error", failure.message)]
  | .unparsable refusal => explain "could not parse request" [("error", refusal.message)]
  | .unnamed => explain "request has no name" []

end Fallback

/-- The name in some bytes, or why there is none. -/
def ofBytes (bytes : Bytes) : Except Fallback String :=
  match Payload.parse bytes with
  | .error refusal => .error (.unparsable refusal)
  | .ok payload =>
      match payload.displayName with
      | some name => .ok name
      | none => .error .unnamed

/-- The name in what a read gave, or why there is none. -/
def ofReading (result : Except Stream.Failure Bytes) : Except Fallback String :=
  match result with
  | .error failure => .error (.unreadable failure)
  | .ok bytes => ofBytes bytes

/-- The name to greet, with the entries of a read and the one that explains a
fallback. -/
def conclude (entries : List Diagnostics.Entry) (result : Except Fallback String) :
    Diagnostics.Logged String :=
  match result with
  | .ok name => ⟨name, entries⟩
  | .error fallback => ⟨defaultName, entries ++ [fallback.entry]⟩

/-- What has to be asked of a source to know whom to greet. -/
def inquiry : Inquiry Stream.Source.Question Stream.Source.Question.Answer
    (Diagnostics.Logged String) :=
  .ask .isTerminal fun (terminal : Bool) =>
    if terminal then .done (conclude [] (.error .terminal))
    else
      .ask .readAll fun (reading : Stream.Reading) =>
        .done (conclude reading.entries (ofReading reading.result))

/-- The resolution that so many reads have led to. -/
def Resolution.after (reads : Nat) (told : Diagnostics.Logged String) : Resolution :=
  ⟨told.result, reads, told.entries⟩

@[simp]
theorem Resolution.name_after (reads : Nat) (told : Diagnostics.Logged String) :
    (Resolution.after reads told).name = told.result := rfl

@[simp]
theorem Resolution.entries_after (reads : Nat) (told : Diagnostics.Logged String) :
    (Resolution.after reads told).entries = told.entries := rfl

/-- Whom to greet, given a source.  The reads are counted where they are asked
for. -/
def resolve (source : Stream.Source) : Except Stream.ClockOverflow Resolution :=
  let reads := (inquiry.questions source.answer).count .readAll
  (inquiry.run source.answer).map (Resolution.after reads)

theorem resolve_terminal (reading : Except Stream.ClockOverflow Stream.Reading) :
    resolve ⟨true, reading⟩ = .ok (.after 0 (conclude [] (.error .terminal))) := rfl

theorem resolve_reading (reading : Stream.Reading) :
    resolve ⟨false, .ok reading⟩ =
      .ok (.after 1 (conclude reading.entries (ofReading reading.result))) := rfl

theorem resolve_overflow (overflow : Stream.ClockOverflow) :
    resolve ⟨false, .error overflow⟩ = .error overflow := rfl

end Addressee
end Salutation
