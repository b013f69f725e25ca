import Salutation.CommandLine.Answer
import Salutation.CommandLine.Similarity

namespace Salutation
namespace CommandLine

/-!
# Reading a command line

The arguments are read from left to right, and the first thing that settles
the answer settles it for good.  An option whose value is still to come, or
has just come, is pending: it counts only when the next option is met, or at
the end.  A refusal for another reason comes before whatever is wrong with a
pending option.
-/

/-- An option that waits for its value, or has it but does not count yet. -/
inductive Pending where
  | nothing
  | awaiting
  | holding (value : String)
  deriving DecidableEq, Repr

/-- What has been read so far: the choices, and the options that count in the
order of their first use. -/
structure Progress where
  choices : Choices
  used : List Flag
  pending : Pending
  deriving DecidableEq, Repr

namespace Progress

def start : Progress := ⟨⟨none, false⟩, [], .nothing⟩

/-- The options with one more, unless it is among them. -/
def withFlag (flags : List Flag) (flag : Flag) : List Flag :=
  if flags.contains flag then flags else flags ++ [flag]

/-- Make an option count, which it can do only once. -/
def count (progress : Progress) (flag : Flag) (choices : Choices) : Except Refusal Progress :=
  if progress.used.contains flag then .error (.repeated flag)
  else .ok { progress with choices, used := progress.used ++ [flag] }

/-- Make the value of the option that takes one count. -/
def choose (progress : Progress) (value : String) : Except Refusal Progress :=
  progress.count .config { progress.choices with config := some value }

/-- Make a pending option count. -/
def settle (progress : Progress) : Except Refusal Progress :=
  match progress.pending with
  | .nothing => .ok progress
  | .awaiting => .error .missingValue
  | .holding value => ({ progress with pending := .nothing }).choose value

/-- What counts when the answer is a refusal for another reason.  An option
that is pending for the second time then counts no more. -/
def abandon (progress : Progress) : Progress :=
  match progress.settle with
  | .ok settled => settled
  | .error (.repeated flag) => { progress with used := progress.used.erase flag }
  | .error _ => progress

/-- The usage that shows the options that count, if there are any. -/
def usage (progress : Progress) : Usage :=
  if progress.used.isEmpty then .general else .withFlags progress.used

/-- The usage that shows one more option. -/
def usageWith (progress : Progress) (flag : Flag) : Usage :=
  .withFlags (withFlag progress.used flag)

/-- The usage that shows an option which was given a value but takes none.  The
options that count are shown as alternatives. -/
def usageAround (progress : Progress) (flag : Flag) : Usage :=
  if progress.used.isEmpty then .withFlags [flag] else .withChoice [flag]

/-- The answer when there are no more arguments. -/
def finish (progress : Progress) : Answer :=
  match progress.settle with
  | .error refusal => .refused refusal
  | .ok settled => .run settled.choices

/-- An argument that is not known, where no option could be meant. -/
def refuse (argument : String) : Answer := .refused (.unexpected argument none .general)

/-- An option that takes no value. -/
def takeSwitch (progress : Progress) (flag : Flag) : Except Answer Progress :=
  match progress.settle with
  | .error refusal => .error (.refused refusal)
  | .ok settled =>
      match flag with
      | .help => .error .help
      | .version => .error .version
      | _ =>
          match settled.count flag { settled.choices with showRuntime := true } with
          | .error refusal => .error (.refused refusal)
          | .ok next => .ok next

/-- The option that takes a value, with the value if it is attached. -/
def takeConfig (progress : Progress) (attached : Option String) : Except Answer Progress :=
  match progress.settle with
  | .error refusal => .error (.refused refusal)
  | .ok settled =>
      match attached with
      | none => .ok { settled with pending := .awaiting }
      | some value =>
          match settled.choose value with
          | .error refusal => .error (.refused refusal)
          | .ok next => .ok next

/-- A long name that is not known.  The most similar option is suggested, and
the usage shows it after the options that count. -/
def refuseLong (progress : Progress) (name : String) : Answer :=
  let abandoned := progress.abandon
  let similar := Similarity.closest? name (Flag.all.map (fun flag => (flag.longName, flag)))
  let usage :=
    match similar with
    | some flag => abandoned.usageWith flag
    | none => abandoned.usage
  .refused (.unexpected ("--" ++ name) similar usage)

/-- An argument that starts with two dashes: a long name, and a value after the
first equals sign if there is one. -/
def takeLong (progress : Progress) (text : List Char) : Except Answer Progress :=
  let name := String.ofList (text.takeWhile (· != '='))
  let attached :=
    match text.dropWhile (· != '=') with
    | [] => none
    | _ :: value => some (String.ofList value)
  match Flag.ofLongName? name, attached with
  | none, _ => .error (progress.refuseLong name)
  | some .config, attached => progress.takeConfig attached
  | some flag, none => progress.takeSwitch flag
  | some flag, some value =>
      .error (.refused (.unwantedValue flag value (progress.usageAround flag)))

/-- The letters after a single dash.  What follows the letter of an option that
takes a value is the value, less an equals sign in front. -/
def takeLetters (progress : Progress) : List Char -> Except Answer Progress
  | [] => .ok progress
  | letter :: rest =>
      match Flag.ofLetter? letter with
      | none => .error (refuse ("-" ++ letter.toString))
      | some .config =>
          match rest with
          | [] => progress.takeConfig none
          | '=' :: value => progress.takeConfig (some (String.ofList value))
          | value => progress.takeConfig (some (String.ofList value))
      | some flag =>
          match progress.takeSwitch flag with
          | .error answer => .error answer
          | .ok next => next.takeLetters rest

/-- An argument that is no option: a value that is awaited, or one argument
too many. -/
def takePlain (progress : Progress) (argument : String) : Except Answer Progress :=
  match progress.pending with
  | .awaiting => .ok { progress with pending := .holding argument }
  | _ => .error (refuse argument)

/-- One argument before the end of the options. -/
def take (progress : Progress) (argument : String) : Except Answer Progress :=
  match argument.toList with
  | '-' :: '-' :: text => progress.takeLong text
  | '-' :: letter :: letters => progress.takeLetters (letter :: letters)
  | _ => progress.takePlain argument

/-- All arguments.  Two dashes alone end the options, and nothing may follow
them. -/
def takeAll (progress : Progress) : List String -> Answer
  | [] => progress.finish
  | argument :: rest =>
      if argument = "--" then
        match rest with
        | [] => progress.finish
        | extra :: _ => refuse extra
      else
        match progress.take argument with
        | .error answer => answer
        | .ok next => next.takeAll rest

end Progress

/-- The answer to a command line. -/
def parse (arguments : List String) : Answer :=
  Progress.start.takeAll arguments

end CommandLine
end Salutation
