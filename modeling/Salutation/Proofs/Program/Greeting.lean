import Salutation.Proofs.Addressee.Naming
import Salutation.Proofs.CommandLine.Uses
import Salutation.Proofs.Program.Inquiry
import Salutation.Proofs.Settings.Range

namespace Salutation

/-!
# What the program prints

A run whose command line is made of uses of options prints one greeting and
ends well.  Nothing else that it meets can keep it from that: settings that
cannot be loaded are replaced by the defaults, and input that cannot be read or
that names nobody is replaced by the default name, as is a terminal, which is
not read.  What is printed depends on the bytes that are offered in time and on
who asks for a signature.
-/

/-! ## What is attached to standard input -/

namespace Stream
namespace Attachment

/-- The bytes that an attachment has to give. -/
def bytes : Attachment -> Bytes
  | .pipe bytes _ => bytes
  | .file bytes => bytes
  | .nullDevice => []
  | .directory => []

/-- Bytes that are there from the start are in time for every deadline. -/
theorem arrived_arriving {deadline : Nat} (positive : 0 < deadline) (bytes : Bytes)
    {last : Event} {ending : Ending} (ends : last.ending? = some ending) :
    Script.arrived deadline (arriving bytes ++ [last]) = bytes := by
  cases bytes with
  | nil => exact Script.arrivedFrom_cons_some deadline 0 [] ends
  | cons byte bytes =>
      have events : arriving (byte :: bytes) = [.data (byte :: bytes)] := rfl
      have goesOn : (Event.data (byte :: bytes)).ending? = none := rfl
      rw [Script.arrived, events, List.singleton_append,
        Script.arrivedFrom_cons_none deadline 0 _ goesOn,
        Script.arrivedFrom_cons_some deadline _ [] ends, if_pos positive, List.append_nil]
      rfl

/-- Whatever an attachment has to give arrives before every deadline. -/
theorem arrived_script (attachment : Attachment) {deadline : Nat} (positive : 0 < deadline) :
    attachment.script.arrived deadline = attachment.bytes := by
  have hangs : Event.ending? .hang = some .blocked := rfl
  have closes : Event.ending? .close = some .endOfStream := rfl
  have fails : Event.ending? (.error (.numbered readOfDirectory)) =
      some (.failed (.numbered readOfDirectory)) := rfl
  cases attachment with
  | pipe bytes heldOpen =>
      cases heldOpen with
      | true => exact arrived_arriving positive bytes hangs
      | false => exact arrived_arriving positive bytes closes
  | file bytes => exact arrived_arriving positive bytes closes
  | nullDevice => exact arrived_arriving positive [] closes
  | directory => exact arrived_arriving positive [] fails

end Attachment
end Stream

/-! ## The whole program -/

namespace Program

open CommandLine

theorem text_greet (name : String) : (Line.greet name).text = "Hello " ++ name ++ " !!!" := by
  rfl

theorem text_signed (name : String) :
    (Line.greet name).signed.text = "Hello " ++ name ++ " !!!" ++ " from greeter 0.1.0" := by
  have note : " from " ++ programLabel = " from greeter 0.1.0" := rfl
  rw [← note, ← String.append_assoc]
  rfl

/-- Standard input is resolved before the deadline of the settings, to whom the
bytes name that it offers until then. -/
theorem exists_resolved {surroundings : Surroundings}
    (early : Settings.EarlyClock surroundings.now) (choices : Choices) :
    let timeout := (settings surroundings.files choices).result.timeout
    Exists fun resolution =>
      Addressee.resolve (surroundings.source timeout) = .ok resolution ∧
      Addressee.Greets
        (Stream.StandardInput.offered surroundings.terminal surroundings.input timeout)
        resolution.name := by
  have range : (settings surroundings.files choices).result.InRange :=
    Settings.inRange_choose surroundings.files choices.config
  rcases Settings.deadline_of_inRange early range with ⟨clock, fits⟩
  exact Addressee.resolve_standardInput fits surroundings.terminal surroundings.input

theorem timeout_pos {settings : Settings} (range : settings.InRange) :
    0 < settings.timeout.toNanoseconds := by
  have positive := range.positive
  simp only [Settings.timeout, Duration.ofMilliseconds, Duration.toNanoseconds,
    Duration.nanosecondsPerSecond]
  omega

/-- Whatever is attached to standard input offers all its bytes. -/
theorem offered_attachment (attachment : Stream.Attachment) {settings : Settings}
    (range : settings.InRange) :
    Stream.StandardInput.offered false attachment.script settings.timeout = attachment.bytes :=
  attachment.arrived_script (timeout_pos range)

end Program
end Salutation
