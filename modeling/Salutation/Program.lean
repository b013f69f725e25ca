import Salutation.Addressee
import Salutation.CommandLine.Parse
import Salutation.Diagnostics.Filter
import Salutation.Inquiry
import Salutation.Settings.Load
import Salutation.Stream.StandardInput

namespace Salutation

/-!
# The program

The setting of the filter is asked for first, and then the command line is read:
only if it is to be run are any settings loaded and is standard input asked for
anything.  The greeting goes to the output, everything that was recorded goes
to the diagnostics, as far as the filter shows it, and neither depends on the
other.

A run is an inquiry, so that it is data what it looks at and in which order.
-/

namespace Program

/-- What a run leaves behind. -/
structure Report where
  exitCode : Nat
  output : String
  diagnostics : String
  deriving DecidableEq, Repr

/-- What a run can look at: the setting of the filter, what a path names, and
standard input, which is given a timeout before it is asked for anything. -/
inductive Question where
  | filterSetting
  | node (path : String)
  | input (timeout : Duration) (question : Stream.Source.Question)
  deriving DecidableEq, Repr

def Question.Answer : Question -> Type
  | .filterSetting => Option String
  | .node _ => Node
  | .input _ question => question.Answer

/-- A computation that may look at those. -/
abbrev Asking (Result : Type) := Inquiry Question Question.Answer Result

/-- The greeting of a resolved name. -/
def line (choices : CommandLine.Choices) (settings : Settings) (name : String) : Line :=
  if choices.showRuntime || settings.showRuntime then (Line.greet name).signed
  else Line.greet name

/-- The settings that a command line asks for. -/
def findSettings (choices : CommandLine.Choices) : Asking (Diagnostics.Logged Settings) :=
  match choices.config with
  | none => .done (.quiet .defaults)
  | some path => .ask (.node path) fun (node : Node) =>
      .done (Settings.orDefaults (Settings.ofNode path node))

/-- Whom to greet, as far as standard input tells it within a timeout. -/
def findAddressee (timeout : Duration) : Asking (Diagnostics.Logged String) :=
  Inquiry.via (.input timeout) Addressee.inquiry

/-- The greeting of a run and everything recorded on the way to it. -/
def findGreeting (choices : CommandLine.Choices) : Asking (Diagnostics.Logged Line) := do
  let chosen ← findSettings choices
  let addressee ← findAddressee chosen.result.timeout
  return ⟨line choices chosen.result addressee.result, chosen.entries ++ addressee.entries⟩

/-- The report of a greeting. -/
def report (filterSetting : Option String) (greeting : Diagnostics.Logged Line) : Report where
  exitCode := 0
  output := greeting.result.text ++ "\n"
  diagnostics := (Diagnostics.Filter.ofSetting filterSetting).text greeting.entries

/-- Everything that follows from the answer to a command line. -/
def findReport (filterSetting : Option String) : CommandLine.Answer -> Asking Report
  | .help => return ⟨0, CommandLine.helpText, ""⟩
  | .version => return ⟨0, CommandLine.versionText, ""⟩
  | .refused refusal => return ⟨2, "", refusal.message⟩
  | .run choices => return report filterSetting (← findGreeting choices)

/-- The program. -/
def inquiry (arguments : List String) : Asking Report :=
  .ask .filterSetting fun (filterSetting : Option String) =>
    findReport filterSetting (CommandLine.parse arguments)

/-! ## Runs in known surroundings -/

/-- What a run meets: the setting of the filter, the files, whether standard
input is a terminal and what arrives there, and the time on the clock. -/
structure Surroundings where
  filterSetting : Option String
  files : Files
  terminal : Bool
  input : Stream.Script
  now : Duration

namespace Surroundings

/-- Standard input as a run finds it. -/
def source (surroundings : Surroundings) (timeout : Duration) : Stream.Source :=
  (Stream.StandardInput.fresh surroundings.terminal surroundings.input timeout).toSource
    surroundings.now

def answer (surroundings : Surroundings) :
    (question : Question) -> Except Stream.ClockOverflow question.Answer
  | .filterSetting => .ok surroundings.filterSetting
  | .node path => .ok (surroundings.files path)
  | .input timeout question => (surroundings.source timeout).answer question

end Surroundings

/-- The settings that a run uses. -/
def settings (files : Files) (choices : CommandLine.Choices) : Diagnostics.Logged Settings :=
  Settings.choose files choices.config

/-- Run a command line. -/
def run (arguments : List String) (surroundings : Surroundings) :
    Except Stream.ClockOverflow Report :=
  (inquiry arguments).run surroundings.answer

/-- What a run looks at, in order. -/
def asked (arguments : List String) (surroundings : Surroundings) : List Question :=
  (inquiry arguments).questions surroundings.answer

end Program
end Salutation
