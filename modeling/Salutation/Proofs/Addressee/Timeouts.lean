import Salutation.Addressee
import Salutation.Proofs.Duration
import Salutation.Proofs.Stream.Extension

namespace Salutation

/-!
# Reading a timeout back

A read that has nothing to show when its time is up says how long it has
waited, and the entry about the missing name passes that on.  Both texts are
fixed words with the text of the duration behind them, so that either tells the
timeout exactly, and what they tell is the timeout of that read.
-/

namespace Text

/-- What stands behind an opening, if a text begins with it. -/
def behind? (opening text : String) : Option String :=
  (text.toList.dropPrefix? opening.toList).map String.ofList

theorem behind?_eq_some_iff (opening text rest : String) :
    behind? opening text = some rest ↔ text = opening ++ rest := by
  simp only [behind?, Option.map_eq_some_iff, List.dropPrefix?_eq_some_iff, beq_iff_eq,
    exists_eq_right]
  constructor
  · rintro ⟨characters, whole, rfl⟩
    apply String.toList_injective
    rw [whole, String.toList_append, String.toList_ofList]
  · rintro rfl
    exact ⟨rest.toList, String.toList_append, String.ofList_toList⟩

/-- If one text alone is decoded to a value, so is that text behind an opening. -/
theorem behind?_bind_eq_some_iff {Value : Type} {decode : String -> Option Value} {value : Value}
    {valid : Prop} {written : String}
    (decodes : forall rest, decode rest = some value ↔ valid ∧ rest = written)
    (opening text : String) :
    (behind? opening text).bind decode = some value ↔ valid ∧ text = opening ++ written := by
  simp only [Option.bind_eq_some_iff, behind?_eq_some_iff, decodes]
  constructor
  · rintro ⟨rest, rfl, holds, rfl⟩
    exact ⟨holds, rfl⟩
  · rintro ⟨holds, rfl⟩
    exact ⟨written, rfl, holds, rfl⟩

end Text

namespace Stream

/-- The timeout in the message of a read. -/
def Failure.timeout? (message : String) : Option Duration :=
  (Text.behind? "no input arrived within " message).bind Duration.ofText?

theorem Failure.message_timedOut (duration : Duration) :
    (Failure.timedOut duration).message = "no input arrived within " ++ duration.text := rfl

/-- A message tells a timeout exactly if it is the message of a read that has
waited that long. -/
theorem Failure.timeout?_eq_some_iff (message : String) (duration : Duration) :
    Failure.timeout? message = some duration ↔
      duration.nanoseconds < Duration.nanosecondsPerSecond ∧
      message = (Failure.timedOut duration).message := by
  rw [Failure.timeout?, Failure.message_timedOut]
  apply Text.behind?_bind_eq_some_iff
  intro rest
  exact Duration.ofText?_eq_some_iff rest duration

/-- Messages of timeouts differ like the timeouts. -/
theorem Failure.eq_of_message_eq {duration other : Duration}
    (carried : duration.nanoseconds < Duration.nanosecondsPerSecond)
    (also : other.nanoseconds < Duration.nanosecondsPerSecond)
    (same : (Failure.timedOut duration).message = (Failure.timedOut other).message) :
    duration = other :=
  Duration.eq_of_text_eq carried also ((String.append_right_inj _).mp same)

theorem limit_of_outcome {timeout limit : Duration} {script : Script}
    (late : (outcome timeout script).result = .error (.timedOut limit)) : timeout = limit := by
  rcases outcome_extends (Nat.le_refl timeout.toNanoseconds) script with same | extended
  · cases same.symm.trans late
    rfl
  · rw [late] at extended
    cases extended

/-- A read that is out of time has waited for its own timeout. -/
theorem limit_of_read {now timeout limit : Duration} {script : Script} {reading : Reading}
    (given : read now timeout script = .ok reading)
    (late : reading.result = .error (.timedOut limit)) : timeout = limit := by
  rw [read] at given
  split at given
  · cases given
  · cases given
    rw [collect_eq] at late
    exact limit_of_outcome late

end Stream

namespace Addressee

/-- The timeout in a line about a name that is missing. -/
def timeout? (line : String) : Option Duration :=
  (Text.behind? "DEBUG greeter::resolver: no usable input error=" line).bind
    Stream.Failure.timeout?

theorem text_unreadable (failure : Stream.Failure) :
    (Fallback.unreadable failure).entry.text =
      "DEBUG greeter::resolver: no usable input error=" ++ failure.message := by
  have words : "DEBUG" ++ " " ++ "greeter::resolver" ++ ": " ++ "no usable input" ++
      (" " ++ "error" ++ "=") = "DEBUG greeter::resolver: no usable input error=" := by decide
  have joined : String.join [" " ++ "error" ++ "=" ++ failure.message] =
      " " ++ "error" ++ "=" ++ failure.message := by
    rw [String.join_cons, String.join_nil, String.append_empty]
  rw [← words, String.append_assoc, ← joined]
  rfl

/-- A line tells a timeout exactly if it is about a read that has waited that
long. -/
theorem timeout?_eq_some_iff (line : String) (duration : Duration) :
    timeout? line = some duration ↔
      duration.nanoseconds < Duration.nanosecondsPerSecond ∧
      line = (Fallback.unreadable (.timedOut duration)).entry.text := by
  rw [timeout?, text_unreadable]
  apply Text.behind?_bind_eq_some_iff
  intro rest
  exact Stream.Failure.timeout?_eq_some_iff rest duration

/-- The message of a read that is out of time states its timeout exactly.
Behind fixed words it has a figure of a unit whose value is the duration: the
unit is the largest that does not exceed it, no zero is left that means
nothing, and no other figure and unit would do.  So different timeouts have
different messages, and a timeout can be read back from the message and from
the line that the message is recorded in.  It is the timeout of that read. -/
theorem message_states_timeout {duration : Duration}
    (carried : duration.nanoseconds < Duration.nanosecondsPerSecond) :
    (Exists fun figure => Exists fun unit =>
      (Stream.Failure.timedOut duration).message =
        "no input arrived within " ++ (figure.text ++ unit.symbol) ∧
      duration.IsStatedBy figure unit ∧
      (duration.toSeconds = 0 -> figure.text ++ unit.symbol = "0ns") ∧
      forall other otherUnit, duration.IsStatedBy other otherUnit ->
        other = figure ∧ otherUnit = unit) ∧
    (forall other : Duration, other.nanoseconds < Duration.nanosecondsPerSecond ->
      (Stream.Failure.timedOut other).message = (Stream.Failure.timedOut duration).message ->
      other = duration) ∧
    (forall message, Stream.Failure.timeout? message = some duration ↔
      message = (Stream.Failure.timedOut duration).message) ∧
    (forall now timeout script reading, Stream.read now timeout script = .ok reading ->
      reading.result = .error (.timedOut duration) -> timeout = duration) ∧
    forall entries, Exists fun resolution => Exists fun entry =>
      resolve ⟨false, .ok ⟨.error (.timedOut duration), entries⟩⟩ = .ok resolution ∧
      resolution.entries = entries ++ [entry] ∧
      entry.text = "DEBUG greeter::resolver: no usable input error=" ++
        (Stream.Failure.timedOut duration).message ∧
      forall line, timeout? line = some duration ↔ line = entry.text := by
  have stated := Duration.isStatedBy_figure carried
  refine ⟨⟨duration.figure, duration.unit, ?_, stated, ?_, ?_⟩, ?_, ?_, ?_, ?_⟩
  · rw [Stream.Failure.message_timedOut, Duration.text_eq carried]
  · intro nothing
    rw [← Duration.text_eq carried, Duration.text_of_zero nothing]
  · intro other otherUnit also
    exact also.eq stated
  · intro other also same
    exact Stream.Failure.eq_of_message_eq also carried same
  · intro message
    rw [Stream.Failure.timeout?_eq_some_iff]
    exact and_iff_right carried
  · intro now timeout script reading given late
    exact Stream.limit_of_read given late
  · intro entries
    refine ⟨_, (Fallback.unreadable (.timedOut duration)).entry, rfl, rfl, text_unreadable _, ?_⟩
    intro line
    rw [timeout?_eq_some_iff]
    exact and_iff_right carried

/-- A day and a little, on standard input that stays silent. -/
theorem message_of_long_timeout :
    Stream.Failure.timeout? "no input arrived within 86400.00000102s" = some ⟨86400, 1020⟩ ∧
    (Exists fun reading =>
      Stream.read ⟨0, 0⟩ ⟨86400, 1020⟩ [.hang] = .ok reading ∧
      reading.result = .error (.timedOut ⟨86400, 1020⟩)) ∧
    Exists fun resolution =>
      resolve (.ofScript false ⟨0, 0⟩ ⟨86400, 1020⟩ [.hang]) = .ok resolution ∧
      resolution.entries.map Diagnostics.Entry.text =
        ["DEBUG greeter::resolver: no usable input error=no input arrived within 86400.00000102s"] ∧
      timeout? ("DEBUG greeter::resolver: no usable input error=no input arrived within " ++
        "86400.00000102s") = some ⟨86400, 1020⟩ := by
  have told := @message_states_timeout ⟨86400, 1020⟩ (by decide)
  have message : (Stream.Failure.timedOut ⟨86400, 1020⟩).message =
      "no input arrived within 86400.00000102s" := by decide
  have given : Stream.read ⟨0, 0⟩ ⟨86400, 1020⟩ [.hang] =
      .ok ⟨.error (.timedOut ⟨86400, 1020⟩), []⟩ := Stream.read_eq rfl _
  rcases told.2.2.2.2 [] with ⟨resolution, entry, resolved, entries, text, line⟩
  rw [message] at text
  refine ⟨(told.2.2.1 _).mpr message.symm, ⟨_, given, rfl⟩, resolution, ?_, ?_, ?_⟩
  · rw [Stream.Source.ofScript, given]
    exact resolved
  · rw [entries, List.nil_append, List.map_singleton, text]
    decide
  · refine (line _).mpr ?_
    rw [text]
    decide

end Addressee
end Salutation
