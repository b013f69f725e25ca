namespace Salutation

/-!
# Greeting lines

The line that greets a name, with or without a note of the program that
greets.  The name stands in the line as it is: nothing in it is escaped.
-/

/-- The name of the program, as its users know it. -/
def programName : String := "greeter"

def version : String := "0.1.0"

/-- The program and its version, in the form in which a line mentions it. -/
def programLabel : String := programName ++ " " ++ version

/-- Whom to greet when nobody is named. -/
def defaultName : String := "World"

structure Line where
  name : String
  runtime : Option String
  deriving DecidableEq, Repr

namespace Line

/-- The line for a name, without a note. -/
def greet (name : String) : Line := ⟨name, none⟩

/-- The same line with a note of this program. -/
def signed (line : Line) : Line :=
  { line with runtime := some programLabel }

def text (line : Line) : String :=
  let greeting := "Hello " ++ line.name ++ " !!!"
  match line.runtime with
  | none => greeting
  | some runtime => greeting ++ " from " ++ runtime

end Line
end Salutation
