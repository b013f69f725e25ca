import Salutation.Proofs.CommandLine.Acceptance

namespace Salutation
namespace CommandLine

/-!
# Which command lines ask for information

Help and the version are answered as soon as they are asked for, whatever the
arguments after them are.  What comes before them has to be in order: it is a
command line that could be run as it stands.  A letter that asks for
information also ends its own argument, so that other letters may follow it.
-/

/-- An argument that asks for information, and the answer to it. -/
inductive Request : String -> Answer -> Prop
  | help : Request "--help" .help
  | helpLetter (others : String) : Request ("-h" ++ others) .help
  | version : Request "--version" .version
  | versionLetter (others : String) : Request ("-V" ++ others) .version

/-- A command line of uses of options, each at most once. -/
def Runs (arguments : List String) : Prop :=
  Exists fun uses => Accepted uses arguments ∧ (uses.map Use.flag).Nodup

/-- A command line that asks for information after arguments that could be run
and do not end the options. -/
def Asks (arguments : List String) (answer : Answer) : Prop :=
  Exists fun before => Exists fun option => Exists fun after =>
    arguments = before ++ option :: after ∧ Runs before ∧ "--" ∉ before ∧ Request option answer

section

variable {progress settled : Progress} {argument : String} {answer : Answer}

/-! ## A request is answered -/

end

end CommandLine
end Salutation
