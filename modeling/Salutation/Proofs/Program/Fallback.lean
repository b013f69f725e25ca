import Salutation.Proofs.CommandLine.Acceptance
import Salutation.Proofs.Diagnostics.Filter
import Salutation.Proofs.Program.Greeting
import Salutation.Proofs.Settings.Unusable
import Salutation.Proofs.Stream.Entries

namespace Salutation

/-!
# Runs without usable settings

A run that is given settings which cannot be used goes on as if they had not
been asked for.  What it prints is the same, nothing that the file says counts,
and the one thing that shows is a warning.  Everything else that a run records
is a detail, which is not shown unless somebody asks for it.
-/

/-! ## Details about the addressee -/

namespace Addressee

/-- The entry about an addressee is a detail, as those about the read are. -/
theorem conclude_details {reading : Stream.Reading} (details : Stream.RecordsDetails reading)
    (result : Except Fallback String) :
    forall entry, entry ∈ (conclude reading.entries result).entries ->
      entry.level = .debug := by
  intro entry member
  cases result with
  | ok name => exact (details entry member).level
  | error fallback =>
      rcases List.mem_append.mp member with member | member
      · exact (details entry member).level
      · rw [List.mem_singleton.mp member]
        exact entry_level fallback

/-- Nothing but details is recorded when standard input is resolved. -/
theorem resolution_details {now timeout clock : Duration}
    (fits : Stream.deadline? now timeout = some clock) {terminal : Bool} {script : Stream.Script}
    {resolution : Resolution}
    (resolved : resolve ((Stream.StandardInput.fresh terminal script timeout).toSource now) =
      .ok resolution) :
    forall entry, entry ∈ resolution.entries -> entry.level = .debug := by
  cases terminal with
  | true =>
      rw [resolve_fresh_terminal, Except.ok.injEq] at resolved
      rw [← resolved, Resolution.entries_after]
      exact conclude_details (Stream.recordsDetails_quiet (.ok [])) _
  | false =>
      rw [resolve_fresh fits, Except.ok.injEq] at resolved
      rw [← resolved, Resolution.entries_after]
      exact conclude_details (Stream.recordsDetails_outcome timeout script).announce _

end Addressee

/-! ## What is shown of details -/

namespace Diagnostics
namespace Filter

/-- Without a setting, details add nothing to what is shown. -/
theorem text_append_details (entries : List Entry) {details : List Entry}
    (detailed : forall entry, entry ∈ details -> entry.level = .debug) :
    (ofSetting none).text (entries ++ details) = (ofSetting none).text entries := by
  have hidden : (ofSetting none).text details = "" := by
    apply text_of_hidden
    intro entry member
    rw [standard_admits, detailed entry member]
    decide
  rw [text_append, hidden, String.append_empty]

end Filter
end Diagnostics

/-! ## The whole program -/

namespace Program

open CommandLine

section

variable {arguments : List String} {choices : Choices} {surroundings : Surroundings}
variable {chosen : Diagnostics.Logged Settings}

/-- Without a setting of the filter, a run shows what it says about its
settings and nothing else. -/
theorem diagnostics_of_settings {resolution : Addressee.Resolution}
    (details : forall entry, entry ∈ resolution.entries -> entry.level = .debug)
    (greeted : Line) :
    (report none ⟨greeted, chosen.entries ++ resolution.entries⟩).diagnostics =
      (Diagnostics.Filter.ofSetting none).text chosen.entries :=
  Diagnostics.Filter.text_append_details _ details

/-- A warning is shown on a line. -/
theorem text_of_fallsBack (fallsBack : Settings.FallsBack chosen) :
    Exists fun text =>
      (Diagnostics.Filter.ofSetting none).text chosen.entries = " WARN " ++ text ++ "\n" ∧
      Text.IsPrintable text := by
  rcases fallsBack.entries with ⟨entry, same, warning⟩
  rcases warning.text with ⟨said, text, printable⟩
  have shown : (Diagnostics.Filter.ofSetting none).admits entry = true := by
    rw [Diagnostics.Filter.standard_admits, warning.level]
    decide
  refine ⟨said, ?_, printable⟩
  rw [same, Diagnostics.Filter.text_of_shown shown, text]

/-- Standard input is resolved before the deadline of the settings, whatever
these are, and nothing but details is recorded about that. -/
theorem exists_detailed (early : Settings.EarlyClock surroundings.now) (choices : Choices) :
    Exists fun resolution =>
      Addressee.resolve (surroundings.source
        (settings surroundings.files choices).result.timeout) = .ok resolution ∧
      forall entry, entry ∈ resolution.entries -> entry.level = .debug := by
  have range := Settings.inRange_choose surroundings.files choices.config
  rcases Settings.deadline_of_inRange early range with ⟨clock, fits⟩
  rcases exists_resolved early choices with ⟨resolution, resolved, _⟩
  exact ⟨resolution, resolved, Addressee.resolution_details fits resolved⟩

/-- A run that falls back to the defaults prints what it prints without the
option, and a warning is shown. -/
theorem run_fallsBack (accepted : parse arguments = .run choices)
    (early : Settings.EarlyClock surroundings.now) {path : String}
    (named : choices.config = some path)
    (fallsBack : Settings.FallsBack (Settings.choose surroundings.files (some path))) :
    Exists fun before => Exists fun option => Exists fun after =>
    Exists fun report => Exists fun plain =>
      arguments = before ++ (option ++ after) ∧ Written (.config path) option ∧
      run arguments surroundings = .ok report ∧
      run (before ++ after) surroundings = .ok plain ∧
      report.output = plain.output ∧ report.exitCode = plain.exitCode ∧
      (surroundings.filterSetting = none -> Exists fun text =>
        report.diagnostics = " WARN " ++ text ++ "\n" ∧ Text.IsPrintable text) := by
  have given : settings surroundings.files choices =
      Settings.choose surroundings.files (some path) := by
    rw [settings, named]
  rcases exists_detailed early choices with ⟨resolution, resolved, details⟩
  have ran := run_of_resolved accepted rfl resolved
  rcases parse_without accepted named with ⟨before, option, after, split, written, without⟩
  -- Both runs use the defaults, so that they resolve the same input.
  rw [given, fallsBack.result] at resolved
  have plain := run_of_resolved without rfl resolved
  refine ⟨before, option, after, _, _, split, written, ran, plain, ?_, rfl, ?_⟩
  · simp only [report, given, fallsBack.result]
    rfl
  · intro unset
    rcases text_of_fallsBack fallsBack with ⟨text, shown, printable⟩
    refine ⟨text, ?_, printable⟩
    rw [unset, diagnostics_of_settings details, given, shown]

/-- A run that has nothing to say about its settings shows nothing. -/
theorem run_silent (accepted : parse arguments = .run choices)
    (early : Settings.EarlyClock surroundings.now)
    (nothing : (settings surroundings.files choices).entries = []) :
    Exists fun report => run arguments surroundings = .ok report ∧
      (surroundings.filterSetting = none -> report.diagnostics = "") := by
  rcases exists_detailed early choices with ⟨resolution, resolved, details⟩
  refine ⟨_, run_of_resolved accepted rfl resolved, fun unset => ?_⟩
  rw [unset, diagnostics_of_settings details, nothing]
  rfl

/-- Settings that cannot be used count for nothing.  A run that is given such
settings prints what it prints without them and ends in the same way, and the
one thing that shows is a warning on one line, whatever the path and the file
hold.  Nothing shows at all when no settings are given or when they can be
used. -/
theorem run_unusable (accepted : parse arguments = .run choices)
    (early : Settings.EarlyClock surroundings.now) :
    (forall path, choices.config = some path -> Settings.Unusable (surroundings.files path) ->
      Exists fun before => Exists fun option => Exists fun after =>
      Exists fun report => Exists fun plain =>
        arguments = before ++ (option ++ after) ∧ Written (.config path) option ∧
        run arguments surroundings = .ok report ∧
        run (before ++ after) surroundings = .ok plain ∧
        report.output = plain.output ∧ report.exitCode = plain.exitCode ∧
        (surroundings.filterSetting = none -> Exists fun text =>
          report.diagnostics = " WARN " ++ text ++ "\n" ∧ Text.IsPrintable text ∧
          '\n' ∉ text.toList)) ∧
    (choices.config = none ∨
        (Exists fun path => choices.config = some path ∧
          Settings.Usable (surroundings.files path)) ->
      Exists fun report => run arguments surroundings = .ok report ∧
        (surroundings.filterSetting = none -> report.diagnostics = "")) := by
  constructor
  · intro path named unusable
    rcases run_fallsBack accepted early named unusable.fallsBack with
      ⟨before, option, after, report, plain, split, written, ran, without, output, ended, warned⟩
    refine ⟨before, option, after, report, plain, split, written, ran, without, output, ended, ?_⟩
    intro unset
    rcases warned unset with ⟨text, shown, printable⟩
    exact ⟨text, shown, printable, printable.not_mem_lineFeed⟩
  · intro quiet
    apply run_silent accepted early
    rcases quiet with none | ⟨path, named, usable⟩
    · rw [settings, none]
      rfl
    · rw [settings, named]
      exact usable.entries

end

/-- A file that asks for a signature and leaves no time to wait. -/
theorem run_zero_timeout :
    Exists fun report =>
      run ["--config=greeter.json"]
        ⟨none, fun _ => .file (Bytes.ofText "\x7b\"show_runtime\":true,\"read_timeout_ms\":0\x7d"),
          false, (Stream.Attachment.pipe (Bytes.ofText "\x7b\"name\":\"Ada\"\x7d") true).script,
          ⟨0, 0⟩⟩ = .ok report ∧
      Exists fun text => report.diagnostics = " WARN " ++ text ++ "\n" ∧ '\n' ∉ text.toList := by
  have accepted : parse ["--config=greeter.json"] = .run ⟨some "greeter.json", false⟩ := by decide
  have early : Settings.EarlyClock ⟨0, 0⟩ := by
    rw [Settings.EarlyClock]
    decide
  have encoded : (Bytes.ofText "\x7b\"show_runtime\":true,\"read_timeout_ms\":0\x7d").toText? =
      some "\x7b\"show_runtime\":true,\"read_timeout_ms\":0\x7d" := rfl
  rcases (Settings.ofContent_eq_zeroTimeout_iff encoded).mp rfl with ⟨runtime, states⟩
  rcases (@run_unusable _ _ ⟨none, fun _ =>
      .file (Bytes.ofText "\x7b\"show_runtime\":true,\"read_timeout_ms\":0\x7d"),
      false, (Stream.Attachment.pipe (Bytes.ofText "\x7b\"name\":\"Ada\"\x7d") true).script, ⟨0, 0⟩⟩
    accepted early).1 _ rfl (.zeroTimeout encoded states) with
    ⟨_, _, _, report, _, _, _, ran, _, _, _, warned⟩
  rcases warned rfl with ⟨text, shown, _, whole⟩
  exact ⟨report, ran, text, shown, whole⟩

end Program
end Salutation
