import Salutation.CommandLine.Flag
import Salutation.Line
import Salutation.Text.ControlSequence

namespace Salutation
namespace CommandLine

/-!
# Answers to a command line

A command line is run, or it asks for information, or it is refused.  A
refusal says what is wrong and, unless a value is missing, how the program is
used: in general, or with the options that were given.  Where it repeats what
was typed, it leaves control sequences out.
-/

/-- The usage that a refusal shows. -/
inductive Usage where
  | general
  | withFlags (flags : List Flag)
  /-- Some options, and one of those that choose something. -/
  | withChoice (flags : List Flag)
  deriving DecidableEq, Repr

inductive Refusal where
  | unexpected (argument : String) (similar : Option Flag) (usage : Usage)
  | missingValue
  | repeated (flag : Flag)
  | unwantedValue (flag : Flag) (value : String) (usage : Usage)
  deriving DecidableEq, Repr

inductive Answer where
  | run (choices : Choices)
  | help
  | version
  | refused (refusal : Refusal)
  deriving DecidableEq, Repr

/-- The text about all options. -/
def helpText : String :=
  "Reads an optional \x7b\"name\": ...\x7d JSON object from stdin and says hello\n\n" ++
  "Usage: greeter [OPTIONS]\n\n" ++
  "Options:\n" ++
  "  -c, --config <CONFIG>  Config file path\n" ++
  "      --show-runtime     Append the runtime name and version to the greeting\n" ++
  "  -h, --help             Print help\n" ++
  "  -V, --version          Print version\n"

/-- The text about the version. -/
def versionText : String := programLabel ++ "\n"

namespace Usage

/-- The usage with some options in it. -/
def line (options : List String) : String :=
  "Usage: " ++ programName ++ String.join (options.map (fun option => " " ++ option)) ++ "\n\n"

/-- The options that choose something, as alternatives. -/
def choice : String :=
  "<" ++ "|".intercalate ((Flag.all.filter Flag.isChoice).map Flag.mention) ++ ">"

/-- How the program is used.  An option that chooses something is not shown
beside the alternatives, among which it is already. -/
def text : Usage -> String
  | .general => line ["[OPTIONS]"]
  | .withFlags flags => line (flags.map Flag.mention)
  | .withChoice flags =>
      line ((flags.filter (fun flag => !flag.isChoice)).map Flag.mention ++ [choice])

end Usage

namespace Refusal

/-- What is wrong with the command line. -/
def complaint : Refusal -> String
  | .unexpected argument _ _ =>
      "unexpected argument '" ++ Text.withoutControls argument ++ "' found"
  | .missingValue =>
      "a value is required for '" ++ Flag.config.mention ++ "' but none was supplied"
  | .repeated flag => "the argument '" ++ flag.mention ++ "' cannot be used multiple times"
  | .unwantedValue flag value _ =>
      "unexpected value '" ++ Text.withoutControls value ++ "' for '" ++ flag.mention ++
        "' found; no more were expected"

/-- A known option that may have been meant. -/
def tip : Refusal -> String
  | .unexpected _ (some flag) _ =>
      "  tip: a similar argument exists: '--" ++ flag.longName ++ "'\n\n"
  | _ => ""

/-- How the program is used. -/
def usageText : Refusal -> String
  | .unexpected _ _ usage => usage.text
  | .missingValue => ""
  | .repeated _ => Usage.general.text
  | .unwantedValue _ _ usage => usage.text

def message (refusal : Refusal) : String :=
  "error: " ++ refusal.complaint ++ "\n\n" ++ refusal.tip ++ refusal.usageText ++
    "For more information, try '--help'.\n"

end Refusal
end CommandLine
end Salutation
