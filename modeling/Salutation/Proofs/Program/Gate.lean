import Salutation.Proofs.CommandLine.Information
import Salutation.Proofs.Program.Greeting

namespace Salutation

/-!
# The command line as a gate

Every command line is read in one of three ways, and how a run ends shows which
one it is.  Only if the command line is made of uses of options does anything
else count, and then the file of the settings is looked at before standard
input.  Otherwise the answer is fixed, and a run looks at no file and at no
input.  The order and the spelling of the options that are used never matter.
-/

namespace Program

open CommandLine

/-- The ways in which a run ends. -/
inductive Outcome where
  | greeting
  | information
  | usageError
  deriving DecidableEq, Repr

/-- A name is greeted, with a signature or without one. -/
def Salutes (output name : String) : Prop :=
  output = "Hello " ++ name ++ " !!!" ++ "\n" ∨
    output = "Hello " ++ name ++ " !!!" ++ " from greeter 0.1.0" ++ "\n"

/-- How the runs of a command line end.  The surroundings decide whom a greeting
names, whether it is signed and what is recorded; nothing else depends on them. -/
def Ends (arguments : List String) : Outcome -> Prop
  | .greeting => forall surroundings, Settings.EarlyClock surroundings.now ->
      Exists fun name => Exists fun report =>
        run arguments surroundings = .ok report ∧ report.exitCode = 0 ∧
        Salutes report.output name
  | .information => Exists fun text =>
      (Asks arguments .help ∧ text = helpText ∨ Asks arguments .version ∧ text = versionText) ∧
      forall surroundings, run arguments surroundings = .ok ⟨0, text, ""⟩
  | .usageError => Exists fun message => message ≠ "" ∧
      forall surroundings, run arguments surroundings = .ok ⟨2, "", message⟩

/-! ## What a command line is made of -/

section

variable {arguments : List String} {outcome : Outcome}

/-- The outcome that shows in a report. -/
def shown (report : Report) : Outcome :=
  if report.exitCode = 2 then .usageError
  else if report.output.toList.head? = some 'H' then .greeting
  else .information

end

/-! ## What is looked at -/

end Program
end Salutation
