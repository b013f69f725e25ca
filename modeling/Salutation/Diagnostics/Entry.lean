namespace Salutation
namespace Diagnostics

/-!
# Diagnostic entries

What happens on the way to a greeting is recorded as entries.  An entry is
data: where it comes from, how important it is, what it says, and the values
that go with it.  Its text is made in one place, and whether anybody sees it
is decided elsewhere; nothing that is computed depends on either.
-/

/-- How important an entry is, from faults down to single steps. -/
inductive Level where
  | error
  | warn
  | info
  | debug
  | trace
  deriving DecidableEq, Repr

namespace Level

/-- The levels count from the one that is always worth showing. -/
def rank : Level -> Nat
  | .error => 1
  | .warn => 2
  | .info => 3
  | .debug => 4
  | .trace => 5

/-- The level in five columns, to the right. -/
def label : Level -> String
  | .error => "ERROR"
  | .warn => " WARN"
  | .info => " INFO"
  | .debug => "DEBUG"
  | .trace => "TRACE"

end Level

structure Entry where
  level : Level
  target : String
  message : String
  fields : List (String × String)
  deriving DecidableEq, Repr

namespace Entry

/-- The names of the values of an entry.  The message counts as one. -/
def fieldNames (entry : Entry) : List String :=
  "message" :: entry.fields.map (·.1)

/-- The text of an entry, without a line feed of its own.  This is its plain
form: colours are taken to be turned off, as they are when the variable
`NO_COLOR` is set. -/
def text (entry : Entry) : String :=
  entry.level.label ++ " " ++ entry.target ++ ": " ++ entry.message ++
    String.join (entry.fields.map (fun field => " " ++ field.1 ++ "=" ++ field.2))

end Entry

/-- A result together with what was recorded on the way to it, in order. -/
structure Logged (Result : Type) where
  result : Result
  entries : List Entry
  deriving DecidableEq, Repr

namespace Logged

/-- A result with nothing to say about it. -/
def quiet {Result : Type} (result : Result) : Logged Result := ⟨result, []⟩

/-- A result and one entry. -/
def noting {Result : Type} (result : Result) (entry : Entry) : Logged Result :=
  ⟨result, [entry]⟩

/-- Go on from a result; what is recorded then comes after what was recorded
before. -/
def andThen {First Second : Type} (logged : Logged First) (next : First -> Logged Second) :
    Logged Second :=
  let following := next logged.result
  ⟨following.result, logged.entries ++ following.entries⟩

end Logged
end Diagnostics
end Salutation
