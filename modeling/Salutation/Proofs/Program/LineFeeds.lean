import Salutation.Proofs.Program.Greeting
import Salutation.Proofs.Utf8

namespace Salutation

/-!
# Line feeds in the output

The output is a greeting with a line feed after it.  The words around a name
have no line feeds of their own, and the name stands in the greeting as it is.
So the greeting is a single line exactly if there is no line feed in the name,
and a payload may well have one there, by way of an escape.
-/

/-! ## ASCII characters and their bytes -/

namespace Bytes

theorem ascii_inj {first second : Char} (small : first.toNat < 0x80) (also : second.toNat < 0x80)
    (same : ascii first = ascii second) : first = second := by
  have codes := congrArg UInt8.toNat same
  rw [ascii, ascii, UInt8.toNat_ofNat', UInt8.toNat_ofNat'] at codes
  apply Char.toNat_inj.mp
  omega

theorem count_utf8EncodeChar {wanted : Char} (small : wanted.toNat < 0x80) (character : Char) :
    (String.utf8EncodeChar character).count (ascii wanted) = [character].count wanted := by
  by_cases also : character.toNat < 0x80
  · rw [utf8EncodeChar_of_ascii also]
    by_cases same : character = wanted
    · rw [same, List.count_singleton_self, List.count_singleton_self]
    · have different : ascii character ≠ ascii wanted :=
        fun equal => same (ascii_inj also small equal)
      rw [List.count_singleton, List.count_singleton, beq_false_of_ne different,
        beq_false_of_ne same]
  · have different : character ≠ wanted := by
      rintro rfl
      exact also small
    rw [List.count_singleton, beq_false_of_ne different]
    apply List.count_eq_zero_of_not_mem
    intro member
    have large := le_of_mem_utf8EncodeChar (Nat.not_lt.mp also) member
    rw [ascii, UInt8.toNat_ofNat'] at large
    omega

/-- An ASCII character is in a text as often as its byte is among the bytes of
the text. -/
theorem count_ofText {wanted : Char} (small : wanted.toNat < 0x80) (text : String) :
    (ofText text).count (ascii wanted) = text.toList.count wanted := by
  rw [ofText_eq]
  induction text.toList with
  | nil => rfl
  | cons character characters inductionHypothesis =>
      rw [ofCharacters_cons, List.count_append, count_utf8EncodeChar small, inductionHypothesis,
        ← List.count_append, List.singleton_append]

theorem ofText_append (first second : String) :
    ofText (first ++ second) = ofText first ++ ofText second := by
  rw [ofText_eq, ofText_eq, ofText_eq, String.toList_append, ofCharacters, List.flatMap_append]
  rfl

end Bytes

/-! ## Greetings -/

namespace Line

/-- The number of line feeds in a text. -/
def feeds (text : String) : Nat := text.toList.count '\n'

theorem feeds_append (first second : String) :
    feeds (first ++ second) = feeds first + feeds second := by
  rw [feeds, String.toList_append, List.count_append, feeds, feeds]

theorem feeds_eq_zero_iff (text : String) : feeds text = 0 ↔ '\n' ∉ text.toList :=
  List.count_eq_zero

theorem feeds_pos_iff (text : String) : 0 < feeds text ↔ '\n' ∈ text.toList :=
  List.count_pos_iff

theorem feeds_defaultName : feeds defaultName = 0 := by
  decide

/-- The words around a name have no line feeds. -/
theorem feeds_greet (name : String) : feeds (greet name).text = feeds name := by
  have opening : feeds "Hello " = 0 := by decide
  have closing : feeds " !!!" = 0 := by decide
  rw [Program.text_greet, feeds_append, feeds_append, opening, closing, Nat.zero_add, Nat.add_zero]

/-- Neither has the note of the program. -/
theorem feeds_signed (name : String) : feeds (greet name).signed.text = feeds name := by
  have note : feeds " from greeter 0.1.0" = 0 := by decide
  rw [Program.text_signed, ← Program.text_greet, feeds_append, note, feeds_greet, Nat.add_zero]

end Line

/-! ## The whole program -/

namespace Program

open CommandLine

theorem feeds_line (choices : Choices) (settings : Settings) (name : String) :
    Line.feeds (line choices settings name).text = Line.feeds name := by
  unfold line
  split
  · exact Line.feeds_signed name
  · exact Line.feeds_greet name

/-- The line feeds in the bytes of an output are those in the name and the one
that ends the output. -/
theorem count_output (choices : Choices) (settings : Settings) (name : String) :
    (Bytes.ofText ((line choices settings name).text ++ "\n")).count (ascii '\n') =
      Line.feeds name + 1 := by
  have small : '\n'.toNat < 0x80 := by decide
  have last : Line.feeds "\n" = 1 := by decide
  rw [Bytes.count_ofText small, ← Line.feeds, Line.feeds_append, feeds_line, last]

/-- An output ends with a line feed. -/
theorem getLast_output (text : String) :
    (Bytes.ofText (text ++ "\n")).getLast? = some (ascii '\n') := by
  have last : Bytes.ofText "\n" = [ascii '\n'] := rfl
  rw [Bytes.ofText_append, last, List.getLast?_concat]

end Program

namespace Addressee

/-- A line feed in a name that is greeted is one in a name that the source
tells, because the default name has none. -/
theorem mem_resolved_iff {terminal : Bool} {reading : Stream.Reading} {resolution : Resolution}
    (resolved : resolve ⟨terminal, .ok reading⟩ = .ok resolution) :
    '\n' ∈ resolution.name.toList ↔
      Exists fun name => Tells ⟨terminal, .ok reading⟩ name ∧ '\n' ∈ name.toList := by
  rw [resolve_eq, Except.ok.injEq] at resolved
  rw [← resolved, conclude_name]
  constructor
  · intro broken
    rcases tells_or_lacks terminal reading with ⟨name, tells⟩ | ⟨fallback, lacks⟩
    · rw [tells.found] at broken
      exact ⟨name, tells, broken⟩
    · rw [lacks.found] at broken
      exact absurd broken ((Line.feeds_eq_zero_iff defaultName).mp Line.feeds_defaultName)
  · rintro ⟨name, tells, broken⟩
    rw [tells.found]
    exact broken

end Addressee

namespace Program

open CommandLine

/-- What a run prints ends with a line feed and has one more for every line
feed in the name that it greets.  So it is a single line exactly if there is
none in the name.  The same holds of the greeting of every source, whose line
feeds are those in the name that the source tells. -/
theorem run_line_feeds {arguments : List String} {choices : Choices} {surroundings : Surroundings}
    (accepted : parse arguments = .run choices)
    (early : Settings.EarlyClock surroundings.now) :
    (Exists fun name => Exists fun report =>
      run arguments surroundings = .ok report ∧
      Addressee.Greets (Stream.StandardInput.offered surroundings.terminal surroundings.input
        (settings surroundings.files choices).result.timeout) name ∧
      (Bytes.ofText report.output).getLast? = some 0x0a ∧
      (Bytes.ofText report.output).count 0x0a = name.toList.count '\n' + 1 ∧
      ((Bytes.ofText report.output).count 0x0a = 1 ↔ '\n' ∉ name.toList)) ∧
    forall terminal reading, Exists fun resolution =>
      Addressee.resolve ⟨terminal, .ok reading⟩ = .ok resolution ∧
      forall greeting, greeting = Line.greet resolution.name ∨
          greeting = (Line.greet resolution.name).signed ->
        ('\n' ∈ greeting.text.toList ↔
          Exists fun name => Addressee.Tells ⟨terminal, .ok reading⟩ name ∧ '\n' ∈ name.toList) := by
  constructor
  · rcases exists_resolved early choices with ⟨resolution, resolved, greets⟩
    have counted :=
      count_output choices (settings surroundings.files choices).result resolution.name
    refine ⟨resolution.name, _, run_of_resolved accepted rfl resolved, greets, getLast_output _,
      counted, ?_⟩
    rw [← Line.feeds_eq_zero_iff]
    constructor
    · intro single
      exact Nat.add_right_cancel (counted.symm.trans single)
    · intro plain
      exact counted.trans (by rw [plain])
  · intro terminal reading
    have resolved := Addressee.resolve_eq terminal reading
    refine ⟨_, resolved, ?_⟩
    intro greeting made
    rw [← Addressee.mem_resolved_iff resolved, ← Line.feeds_pos_iff, ← Line.feeds_pos_iff]
    rcases made with rfl | rfl
    · rw [Line.feeds_greet]
    · rw [Line.feeds_signed]

/-- A name with an escaped line feed in it is greeted on two lines. -/
theorem run_two_lines :
    Exists fun report =>
      run [] ⟨none, fun _ => .missing, false,
          (Stream.Attachment.pipe (Bytes.ofText "\x7b\"name\":\"A\\nB\"\x7d") false).script,
          ⟨0, 0⟩⟩ = .ok report ∧
      (Bytes.ofText report.output).count 0x0a = 2 := by
  have accepted : parse [] = .run ⟨none, false⟩ := by decide
  have early : Settings.EarlyClock ⟨0, 0⟩ := by
    rw [Settings.EarlyClock]
    decide
  rcases (@run_line_feeds _ _ ⟨none, fun _ => .missing, false,
      (Stream.Attachment.pipe (Bytes.ofText "\x7b\"name\":\"A\\nB\"\x7d") false).script,
      ⟨0, 0⟩⟩ accepted early).1 with ⟨name, report, ran, greets, _, counted, _⟩
  have offered := offered_attachment
    (.pipe (Bytes.ofText "\x7b\"name\":\"A\\nB\"\x7d") false) Settings.inRange_defaults
  have named : name = "A\nB" :=
    greets.eq_of_parse ((congrArg Payload.parse offered).trans rfl) (by decide)
  rw [named] at counted
  exact ⟨report, ran, counted⟩

end Program
end Salutation
