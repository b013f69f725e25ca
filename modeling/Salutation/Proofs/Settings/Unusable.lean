import Salutation.Settings.Load
import Salutation.Proofs.Json.Complaints
import Salutation.Proofs.Settings.Range

namespace Salutation

/-!
# Settings that cannot be used

What a path names is of no use when nothing is there, when it cannot be read,
when it is not a text, when the text does not state settings, and when it
states a timeout of zero.  In each case the defaults are used as a whole and
one warning says why.  It stands on one line whatever the path and the file
hold: a path is quoted, and so is every text that a complaint mentions.
-/

/-! ## Errors of the system -/

namespace Stream

theorem isPrintable_systemError (number : Nat) : Text.IsPrintable (describeSystemError number) := by
  have visible : systemErrors.all (fun item =>
      (Bytes.ofText item.2).all Text.isVisible) = true := by
    decide +kernel
  unfold describeSystemError
  split
  · next description found =>
      rcases List.lookup_eq_some_iff.mp found with ⟨before, after, split, _⟩
      have member : (number, description) ∈ systemErrors := by
        rw [split]
        exact List.mem_append_right before List.mem_cons_self
      exact Text.isPrintable_of_visible (List.all_eq_true.mp visible _ member)
  · have opening : Text.IsPrintable "Unknown error " := by decide
    exact opening.append (Text.isPrintable_natural number)

/-- The system reports an error by its number or by its kind. -/
inductive DeviceError.OfSystem : DeviceError -> Prop
  | plain (kind : ErrorKind) : OfSystem (.plain kind)
  | numbered (number : Nat) : OfSystem (.numbered number)

theorem DeviceError.OfSystem.isPrintable {error : DeviceError} (reported : error.OfSystem) :
    Text.IsPrintable error.message := by
  cases reported with
  | plain kind => cases kind <;> decide
  | numbered number =>
      have opening : Text.IsPrintable " (os error " := by decide
      have closing : Text.IsPrintable ")" := by decide
      exact (((isPrintable_systemError number).append opening).append
        (Text.isPrintable_natural number)).append closing

end Stream

namespace Settings

open Json

/-! ## When settings cannot be used -/

/-- What a path names does not give any settings. -/
inductive Unusable : Node -> Prop
  | missing : Unusable .missing
  | directory : Unusable .directory
  | unreadable {error : Stream.DeviceError} : error.OfSystem -> Unusable (.unreadable error)
  | notText {content : Bytes} : content.toText? = none -> Unusable (.file content)
  | notSettings {content : Bytes} {text : String} : content.toText? = some text ->
      (forall timeout runtime, ¬ States content timeout runtime) -> Unusable (.file content)
  | zeroTimeout {content : Bytes} {text : String} {runtime : Option Bool} :
      content.toText? = some text -> States content (some 0) runtime -> Unusable (.file content)

/-- A file gives settings when it is a text that states them and that leaves
some time to wait. -/
inductive Usable : Node -> Prop
  | settings {content : Bytes} {text : String} {timeout : Option Nat} {runtime : Option Bool} :
      content.toText? = some text -> States content timeout runtime -> timeout ≠ some 0 ->
      Usable (.file content)

/-! ## Why settings are not used -/

theorem isPrintable_unreadable {error : ReadError} (printable : Text.IsPrintable error.message) :
    Text.IsPrintable (LoadError.unreadable error).message := by
  have opening : Text.IsPrintable "failed to read config file: " := by decide
  exact opening.append printable

theorem isPrintable_device {error : Stream.DeviceError} (reported : error.OfSystem) :
    Text.IsPrintable (LoadError.unreadable (.device error)).message :=
  @isPrintable_unreadable (.device error) reported.isPrintable

/-- The names of the settings are printable, so that all complaints about them
are. -/
theorem isPrintable_unparsable {content : Bytes} {complaint : Complaint}
    (refused : decode content = .error complaint) :
    Text.IsPrintable (LoadError.unparsable complaint).message := by
  have kind : Text.IsPrintable "struct Config" := by decide
  have names : forall field, field ∈ [timeoutField, runtimeField] ->
      Text.IsPrintable field.name := by
    decide
  have inside : forall field, field ∈ [timeoutField, runtimeField] -> forall settings input,
      Blames Cause.Legible (field.read settings input) := by
    intro field member settings input
    simp only [List.mem_cons, List.not_mem_nil, or_false] at member
    rcases member with rfl | rfl
    · simp only [timeoutField]
      split
      · next refused => exact blames_error (readNatural_blames _ _ refused)
      · exact blames_ok _
    · simp only [runtimeField]
      split
      · next refused => exact blames_error (readBoolean_blames _ _ refused)
      · exact blames_ok _
  have legible := fun input => Record.read_blames kind names inside defaults input
  have opening : Text.IsPrintable "failed to parse config: " := by decide
  exact opening.append (readAll_isPrintable legible refused)

theorem isPrintable_invalid {settings : Settings} {error : LoadError}
    (invalid : settings.validate = .error error) : Text.IsPrintable error.message := by
  unfold validate at invalid
  split at invalid
  · cases invalid
  · cases invalid
    decide

/-- Whatever a file holds, its settings are refused in printable characters. -/
theorem isPrintable_ofContent {content : Bytes} {error : LoadError}
    (rejected : ofContent content = .error error) : Text.IsPrintable error.message := by
  unfold ofContent at rejected
  split at rejected
  · cases rejected
    exact isPrintable_unreadable (by decide)
  · split at rejected
    · next refused =>
        cases rejected
        exact isPrintable_unparsable refused
    · split at rejected
      · next invalid =>
          cases rejected
          exact isPrintable_invalid invalid
      · cases rejected

/-! ## The warning -/

/-- A warning that stands on one line. -/
structure IsWarning (entry : Diagnostics.Entry) : Prop where
  level : entry.level = .warn
  text : Exists fun said => entry.text = " WARN " ++ said ∧ Text.IsPrintable said

theorem isWarning {target message : String} (source : Text.IsPrintable target)
    (printable : Text.IsPrintable message) : IsWarning ⟨.warn, target, message, []⟩ where
  level := rfl
  text := by
    have colon : Text.IsPrintable ": " := by decide
    have label : Diagnostics.Level.warn.label ++ " " = " WARN " := rfl
    have alone : String.join (([] : List (String × String)).map
        (fun field => " " ++ field.1 ++ "=" ++ field.2)) = "" := rfl
    refine ⟨target ++ ": " ++ message, ?_, (source.append colon).append printable⟩
    rw [Diagnostics.Entry.text, label, alone, String.append_empty, String.append_assoc,
      String.append_assoc, String.append_assoc]

theorem isWarning_missingEntry (path : String) : IsWarning (missingEntry path) := by
  have opening : Text.IsPrintable "Config file not found at " := by decide
  have closing : Text.IsPrintable ", using defaults" := by decide
  exact isWarning (by decide) ((opening.append (Text.isPrintable_quoted path)).append closing)

theorem isWarning_rejectedEntry {error : LoadError} (printable : Text.IsPrintable error.message) :
    IsWarning (rejectedEntry error) := by
  have opening : Text.IsPrintable "Failed to load config: " := by decide
  have closing : Text.IsPrintable ", using defaults" := by decide
  exact isWarning (by decide) ((opening.append printable).append closing)

/-! ## Settings that a run uses -/

/-- The defaults, with one warning. -/
structure FallsBack (chosen : Diagnostics.Logged Settings) : Prop where
  result : chosen.result = defaults
  entries : Exists fun entry => chosen.entries = [entry] ∧ IsWarning entry

section

variable {files : Files} {path : String}

theorem fallsBack_of_rejected {error : LoadError}
    (rejected : load files path = .quiet (.error error))
    (printable : Text.IsPrintable error.message) : FallsBack (choose files (some path)) := by
  have chosen : choose files (some path) = .noting defaults (rejectedEntry error) := by
    rw [choose, orDefaults, rejected]
    rfl
  rw [chosen]
  exact ⟨rfl, _, rfl, isWarning_rejectedEntry printable⟩

theorem fallsBack_of_content {content : Bytes} {error : LoadError}
    (present : files path = .file content) (rejected : ofContent content = .error error) :
    FallsBack (choose files (some path)) := by
  refine fallsBack_of_rejected ?_ (isPrintable_ofContent rejected)
  rw [load, present, ofNode, rejected]

/-- Settings that cannot be used are replaced by the defaults as a whole, and
one warning says so. -/
theorem Unusable.fallsBack (unusable : Unusable (files path)) :
    FallsBack (choose files (some path)) := by
  cases node : files path with
  | missing =>
      have chosen : choose files (some path) = .noting defaults (missingEntry path) := by
        rw [choose, orDefaults, load, node]
        rfl
      rw [chosen]
      exact ⟨rfl, _, rfl, isWarning_missingEntry path⟩
  | directory =>
      exact fallsBack_of_rejected (by rw [load, node, ofNode]) (isPrintable_device (.numbered _))
  | unreadable error =>
      rw [node] at unusable
      cases unusable with
      | unreadable reported =>
          exact fallsBack_of_rejected (by rw [load, node, ofNode]) (isPrintable_device reported)
  | file content =>
      rw [node] at unusable
      cases unusable with
      | notText other => exact fallsBack_of_content node (ofContent_of_not_text other)
      | notSettings encoded none =>
          rcases ofContent_of_not_states encoded none with ⟨complaint, rejected⟩
          exact fallsBack_of_content node rejected
      | zeroTimeout encoded states =>
          exact fallsBack_of_content node ((ofContent_of_states encoded states).2 rfl)

/-- Nothing is said about settings that are used. -/
theorem Usable.entries (usable : Usable (files path)) :
    (choose files (some path)).entries = [] := by
  cases node : files path with
  | file content =>
      rw [node] at usable
      cases usable with
      | settings encoded states positive =>
          have loaded := (ofContent_of_states encoded states).1 positive
          rw [choose, orDefaults, load, node, ofNode, loaded]
          rfl
  | _ =>
      rw [node] at usable
      cases usable

end

end Settings
end Salutation
