import Mathlib.Data.List.Basic
import Salutation.Proofs.Program.Greeting

namespace Salutation

/-!
# Reading a greeting back

A name stands in its greeting as it is, and it may look like anything, the end
of a greeting and the note of the program included.  All the same a greeting
tells its name and whether it has the note: what ends with the note cannot end
without it, because the last characters differ, and the words around the name
are always the same.  This holds of the note of this program only; with
arbitrary notes one text may be the greeting of two names.
-/

namespace Line

/-- The characters before every name. -/
def opening : List Char := "Hello ".toList

/-- The characters after the name of a line without a note. -/
def plainEnding : List Char := " !!!".toList

/-- The characters after the name of a line with the note of this program. -/
def signedEnding : List Char := " !!! from greeter 0.1.0".toList

/-- A line without a note, or with the note of this program. -/
def IsOwn (line : Line) : Prop :=
  line.runtime = none ∨ line.runtime = some programLabel

/-- The line that a text is, if it is one.  The note is looked for first. -/
def ofText? (text : String) : Option Line :=
  (text.toList.dropPrefix? opening).bind fun rest =>
    match rest.dropSuffix? signedEnding with
    | some name => some (greet (String.ofList name)).signed
    | none => (rest.dropSuffix? plainEnding).map fun name => greet (String.ofList name)

theorem isOwn_iff (line : Line) :
    IsOwn line ↔ line = greet line.name ∨ line = (greet line.name).signed := by
  rcases line with ⟨name, runtime⟩
  simp only [IsOwn, greet, signed, Line.mk.injEq, true_and]

theorem toList_greet (name : String) :
    (greet name).text.toList = opening ++ (name.toList ++ plainEnding) := by
  rw [Program.text_greet, String.toList_append, String.toList_append, List.append_assoc]
  rfl

theorem toList_signed (name : String) :
    (greet name).signed.text.toList = opening ++ (name.toList ++ signedEnding) := by
  have ending : " !!!".toList ++ " from greeter 0.1.0".toList = signedEnding := rfl
  rw [Program.text_signed, String.toList_append, String.toList_append, String.toList_append,
    List.append_assoc, List.append_assoc, ending]
  rfl

section

variable {Item : Type} [BEq Item] [LawfulBEq Item] {whole part rest : List Item}

theorem dropPrefix?_iff : whole.dropPrefix? part = some rest ↔ whole = part ++ rest := by
  simp only [List.dropPrefix?_eq_some_iff, beq_iff_eq, exists_eq_right]

theorem dropSuffix?_iff : whole.dropSuffix? part = some rest ↔ whole = rest ++ part := by
  simp only [List.dropSuffix?_eq_some_iff, beq_iff_eq, exists_eq_right]

end

/-- What ends like a line without a note does not end with the note. -/
theorem dropSuffix?_plainEnding (name : List Char) :
    (name ++ plainEnding).dropSuffix? signedEnding = none := by
  rw [Option.eq_none_iff_forall_ne_some]
  intro other found
  have same : name ++ plainEnding = other ++ signedEnding := dropSuffix?_iff.mp found
  have lastPlain : (name ++ plainEnding).getLast? = some '!' := by
    rw [List.getLast?_append]
    rfl
  have lastSigned : (other ++ signedEnding).getLast? = some '0' := by
    rw [List.getLast?_append]
    rfl
  rw [same, lastSigned] at lastPlain
  exact absurd lastPlain (by decide)

theorem ofText?_greet (name : String) : ofText? (greet name).text = some (greet name) := by
  have read : (name.toList ++ plainEnding).dropSuffix? plainEnding = some name.toList :=
    dropSuffix?_iff.mpr rfl
  rw [ofText?, toList_greet, dropPrefix?_iff.mpr rfl, Option.bind_some]
  simp only [dropSuffix?_plainEnding, read, Option.map_some, String.ofList_toList]

theorem ofText?_signed (name : String) :
    ofText? (greet name).signed.text = some (greet name).signed := by
  have read : (name.toList ++ signedEnding).dropSuffix? signedEnding = some name.toList :=
    dropSuffix?_iff.mpr rfl
  rw [ofText?, toList_signed, dropPrefix?_iff.mpr rfl, Option.bind_some]
  simp only [read, String.ofList_toList]

/-- A text is read as a line exactly if it is the text of that line. -/
theorem ofText?_eq_some_iff (text : String) (line : Line) :
    ofText? text = some line ↔ IsOwn line ∧ line.text = text := by
  constructor
  · intro read
    rw [ofText?, Option.bind_eq_some_iff] at read
    rcases read with ⟨rest, opened, read⟩
    have whole : text.toList = opening ++ rest := dropPrefix?_iff.mp opened
    split at read
    · next name found =>
        cases read
        refine ⟨.inr rfl, String.toList_injective ?_⟩
        rw [toList_signed, whole, dropSuffix?_iff.mp found, String.toList_ofList]
    · rw [Option.map_eq_some_iff] at read
      rcases read with ⟨name, found, rfl⟩
      refine ⟨.inl rfl, String.toList_injective ?_⟩
      rw [toList_greet, whole, dropSuffix?_iff.mp found, String.toList_ofList]
  · rintro ⟨own, rfl⟩
    rcases (isOwn_iff line).mp own with same | same
    · rw [same]
      exact ofText?_greet line.name
    · rw [same]
      exact ofText?_signed line.name

/-- Lines of this program with the same text are the same. -/
theorem eq_of_text_eq {first second : Line} (own : IsOwn first) (also : IsOwn second)
    (same : first.text = second.text) : first = second := by
  have read := (ofText?_eq_some_iff first.text first).mpr ⟨own, rfl⟩
  rw [(ofText?_eq_some_iff first.text second).mpr ⟨also, same.symm⟩, Option.some.injEq] at read
  exact read.symm

/-- With other notes the text does not tell where the name ends. -/
example : Line.text ⟨"Ada", some "Ben !!! from Eve"⟩ =
    Line.text ⟨"Ada !!! from Ben", some "Eve"⟩ := by
  decide

end Line

namespace Program

open CommandLine

/-- Whether a run asks for the note in its greeting. -/
def signs (files : Files) (choices : Choices) : Bool :=
  choices.showRuntime || (settings files choices).result.showRuntime

/-- A run resolves the input that it meets to a name. -/
def Resolves (surroundings : Surroundings) (choices : Choices) (name : String) : Prop :=
  Exists fun resolution =>
    Addressee.resolve (surroundings.source
      (settings surroundings.files choices).result.timeout) = .ok resolution ∧
    resolution.name = name

theorem line_eq (files : Files) (choices : Choices) (name : String) :
    line choices (settings files choices).result name =
      if signs files choices then (Line.greet name).signed else Line.greet name := rfl

theorem isOwn_line (files : Files) (choices : Choices) (name : String) :
    (line choices (settings files choices).result name).IsOwn := by
  rw [line_eq]
  split
  · exact .inr rfl
  · exact .inl rfl

/-- A line tells its name and whether it has the note. -/
theorem of_line_eq {files otherFiles : Files} {choices others : Choices} {name other : String}
    (same : line choices (settings files choices).result name =
      line others (settings otherFiles others).result other) :
    name = other ∧ signs files choices = signs otherFiles others := by
  rw [line_eq, line_eq] at same
  cases signed : signs files choices <;> cases also : signs otherFiles others <;>
    simp only [signed, also, Bool.false_eq_true, if_false, if_true, Line.greet, Line.signed,
      Line.mk.injEq, reduceCtorEq, and_false, and_true] at same ⊢
  · exact same
  · exact same

/-- A run that comes to an end prints the greeting of the name that it
resolves its input to. -/
theorem output_of_run {arguments : List String} {choices : Choices} {surroundings : Surroundings}
    {report : Report} (accepted : parse arguments = .run choices)
    (ran : run arguments surroundings = .ok report) :
    Exists fun name =>
      Resolves surroundings choices name ∧
      report.output =
        (line choices (settings surroundings.files choices).result name).text ++ "\n" := by
  rcases resolved_of_run accepted ran with ⟨resolution, resolved⟩
  cases ran.symm.trans (run_of_resolved accepted rfl resolved)
  exact ⟨resolution.name, ⟨resolution, resolved, rfl⟩, rfl⟩

/-- A greeting can be read back.  The text of a line without a note, or with the
note of this program, tells the line, whatever its name looks like, and no two
such lines have the same text.  So runs that print the same have resolved their
input to the same name, and either both or none of them have signed it. -/
theorem text_decodes :
    (forall line : Line, line.IsOwn -> Line.ofText? line.text = some line) ∧
    (forall first second : Line, first.IsOwn -> second.IsOwn -> first.text = second.text ->
      first = second) ∧
    forall arguments others choices otherChoices surroundings otherSurroundings report other,
      parse arguments = .run choices -> parse others = .run otherChoices ->
      run arguments surroundings = .ok report -> run others otherSurroundings = .ok other ->
      report.output = other.output ->
      (Exists fun name => Resolves surroundings choices name ∧
        Resolves otherSurroundings otherChoices name) ∧
      signs surroundings.files choices = signs otherSurroundings.files otherChoices := by
  refine ⟨?_, ?_, ?_⟩
  · intro line own
    exact (Line.ofText?_eq_some_iff _ _).mpr ⟨own, rfl⟩
  · intro first second own also same
    exact Line.eq_of_text_eq own also same
  · intro arguments others choices otherChoices surroundings otherSurroundings report other
      accepted also ran ranToo same
    rcases output_of_run accepted ran with ⟨name, resolves, printed⟩
    rcases output_of_run also ranToo with ⟨otherName, resolvesToo, printedToo⟩
    have texts := same
    rw [printed, printedToo, String.append_left_inj] at texts
    have lines := Line.eq_of_text_eq (isOwn_line _ _ _) (isOwn_line _ _ _) texts
    rcases of_line_eq lines with ⟨rfl, signed⟩
    exact ⟨⟨name, resolves, resolvesToo⟩, signed⟩

/-- A name that imitates the note, and a run whose diagnostics alone differ
from those of another one. -/
theorem text_decodes_imitation :
    Line.ofText? "Hello Ada !!! from greeter 0.1.0 !!!" =
        some (Line.greet "Ada !!! from greeter 0.1.0") ∧
    Line.greet "Ada !!! from greeter 0.1.0" ≠ (Line.greet "Ada").signed ∧
    Exists fun report => Exists fun other =>
      run [] ⟨none, fun _ => .missing, false, [.hang], ⟨0, 0⟩⟩ = .ok report ∧
      run ["--"] ⟨some "debug", fun _ => .missing, false, [.hang], ⟨0, 0⟩⟩ = .ok other ∧
      Exists fun name =>
        Resolves ⟨none, fun _ => .missing, false, [.hang], ⟨0, 0⟩⟩ ⟨none, false⟩ name ∧
        Resolves ⟨some "debug", fun _ => .missing, false, [.hang], ⟨0, 0⟩⟩ ⟨none, false⟩ name := by
  have accepted : parse [] = .run ⟨none, false⟩ := by decide
  have also : parse ["--"] = .run ⟨none, false⟩ := by decide
  rcases @exists_resolved ⟨none, fun _ => .missing, false, [.hang], ⟨0, 0⟩⟩
    Settings.earlyClock_start ⟨none, false⟩ with ⟨resolution, resolved, _⟩
  have ran := run_of_resolved accepted rfl resolved
  have ranToo := @run_of_resolved _ _ ⟨some "debug", fun _ => .missing, false, [.hang], ⟨0, 0⟩⟩
    also _ rfl _ resolved
  refine ⟨text_decodes.1 (Line.greet "Ada !!! from greeter 0.1.0") (.inl rfl), by decide, _, _, ran,
    ranToo, ?_⟩
  exact (text_decodes.2.2 _ _ _ _ _ _ _ _ accepted also ran ranToo rfl).1

end Program
end Salutation
