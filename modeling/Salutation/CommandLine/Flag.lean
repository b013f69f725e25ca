namespace Salutation
namespace CommandLine

/-!
# The options of the command line

There are four options, each with a long name and most with a letter.  One of
them takes a value.
-/

inductive Flag where
  | config
  | showRuntime
  | help
  | version
  deriving DecidableEq, Repr

namespace Flag

/-- In the order in which they are listed. -/
def all : List Flag := [.config, .showRuntime, .help, .version]

def longName : Flag -> String
  | .config => "config"
  | .showRuntime => "show-runtime"
  | .help => "help"
  | .version => "version"

def letter? : Flag -> Option Char
  | .config => some 'c'
  | .showRuntime => none
  | .help => some 'h'
  | .version => some 'V'

/-- An option as it is mentioned: its long name, and a place for its value. -/
def mention : Flag -> String
  | .config => "--config <CONFIG>"
  | flag => "--" ++ flag.longName

/-- Whether an option chooses something about the run, and does not ask for
information instead. -/
def isChoice : Flag -> Bool
  | .config => true
  | .showRuntime => true
  | .help => false
  | .version => false

def ofLongName? (name : String) : Option Flag :=
  all.find? (fun flag => flag.longName == name)

def ofLetter? (letter : Char) : Option Flag :=
  all.find? (fun flag => flag.letter? == some letter)

end Flag

/-- What the command line asks for. -/
structure Choices where
  config : Option String
  showRuntime : Bool
  deriving DecidableEq, Repr

end CommandLine
end Salutation
