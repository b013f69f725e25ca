import Salutation.Diagnostics.Entry
import Salutation.Files
import Salutation.Settings.Basic
import Salutation.Stream.Failure
import Salutation.Text.Quoted

namespace Salutation
namespace Settings

/-!
# Loading settings

A file that does not exist is not a fault: the defaults are used, and an entry
warns about it.  A file that exists has to be readable, to be a text, to be a
record of settings, and to leave some time to wait.  The first of these that
fails is the reason why nothing is loaded.
-/

/-- Why a file that exists cannot be read as a text. -/
inductive ReadError where
  | device (error : Stream.DeviceError)
  | notUtf8
  deriving DecidableEq, Repr

/-- Why the settings of a file that exists are not used. -/
inductive LoadError where
  | unreadable (error : ReadError)
  | unparsable (complaint : Json.Complaint)
  | zeroTimeout
  deriving DecidableEq, Repr

namespace ReadError

def message : ReadError -> String
  | .device error => error.message
  | .notUtf8 => "stream did not contain valid UTF-8"

end ReadError

namespace LoadError

def message : LoadError -> String
  | .unreadable error => "failed to read config file: " ++ error.message
  | .unparsable complaint => "failed to parse config: " ++ complaint.message
  | .zeroTimeout => "read_timeout_ms must be greater than zero"

end LoadError

/-- Accept settings that leave some time to wait. -/
def validate (settings : Settings) : Except LoadError Unit :=
  if settings.isValid then .ok () else .error .zeroTimeout

/-- The settings in the content of a file. -/
def ofContent (content : Bytes) : Except LoadError Settings :=
  match content.toText? with
  | none => .error (.unreadable .notUtf8)
  | some _ =>
      match decode content with
      | .error complaint => .error (.unparsable complaint)
      | .ok settings =>
          match settings.validate with
          | .error error => .error error
          | .ok () => .ok settings

/-- The entry about a file that does not exist. -/
def missingEntry (path : String) : Diagnostics.Entry where
  level := .warn
  target := "greeter::config"
  message := "Config file not found at " ++ Text.quoted path ++ ", using defaults"
  fields := []

/-- The settings in what a path names. -/
def ofNode (path : String) : Node -> Diagnostics.Logged (Except LoadError Settings)
  | .missing => .noting (.ok defaults) (missingEntry path)
  | .directory =>
      .quiet (.error (.unreadable (.device (.numbered Stream.readOfDirectory))))
  | .unreadable error => .quiet (.error (.unreadable (.device error)))
  | .file content => .quiet (ofContent content)

/-- The settings in the file at a path. -/
def load (files : Files) (path : String) : Diagnostics.Logged (Except LoadError Settings) :=
  ofNode path (files path)

/-- The entry about settings that are not used. -/
def rejectedEntry (error : LoadError) : Diagnostics.Entry where
  level := .warn
  target := "greeter"
  message := "Failed to load config: " ++ error.message ++ ", using defaults"
  fields := []

/-- Settings that were loaded, or the defaults when they cannot be used. -/
def orDefaults (loaded : Diagnostics.Logged (Except LoadError Settings)) :
    Diagnostics.Logged Settings :=
  loaded.andThen (fun result =>
    match result with
    | .ok settings => .quiet settings
    | .error error => .noting defaults (rejectedEntry error))

/-- The settings at a path if one is given, and the defaults wherever there is
nothing to load or what there is cannot be used. -/
def choose (files : Files) (path : Option String) : Diagnostics.Logged Settings :=
  match path with
  | none => .quiet defaults
  | some path => orDefaults (load files path)

end Settings
end Salutation
