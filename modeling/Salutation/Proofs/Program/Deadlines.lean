import Salutation.Proofs.Program.Greeting
import Salutation.Proofs.Stream.Session

namespace Salutation

/-!
# Deadlines that the clock can show

The clock shows a deadline exactly if the sum of the time and the timeout is
below its limit, and then it shows that sum.  Settings keep their timeout in
milliseconds, and as a duration it is the same number of milliseconds, with
nothing lost and nothing carried wrongly.  It fits 64 bits, so that it is far
from the limit.  It is the timeout that a run gives to standard input, and so no
program that is run on a clock in the first half of its range ends because of a
deadline.
-/

namespace Stream

theorem deadline?_eq (now timeout : Duration) :
    deadline? now timeout =
      if now.seconds + timeout.seconds + (now.nanoseconds + timeout.nanoseconds) / 1000000000 <
          clockLimit then
        some ⟨now.seconds + timeout.seconds + (now.nanoseconds + timeout.nanoseconds) / 1000000000,
          (now.nanoseconds + timeout.nanoseconds) % 1000000000⟩
      else none := rfl

/-- The clock shows the sum of the time and the timeout, if that is below its
limit. -/
theorem deadline?_eq_some_iff (now timeout clock : Duration) :
    deadline? now timeout = some clock ↔
      now.toNanoseconds + timeout.toNanoseconds < clockLimit * Duration.nanosecondsPerSecond ∧
      clock.toNanoseconds = now.toNanoseconds + timeout.toNanoseconds ∧
      clock.nanoseconds < Duration.nanosecondsPerSecond := by
  rcases clock with ⟨seconds, nanoseconds⟩
  simp only [deadline?_eq, Option.ite_none_right_eq_some, Option.some.injEq, Duration.mk.injEq,
    Duration.toNanoseconds, Duration.nanosecondsPerSecond]
  omega

theorem deadline?_eq_none_iff (now timeout : Duration) :
    deadline? now timeout = none ↔
      clockLimit * Duration.nanosecondsPerSecond <= now.toNanoseconds + timeout.toNanoseconds := by
  simp only [deadline?_eq, ite_eq_right_iff, reduceCtorEq, imp_false, Duration.toNanoseconds,
    Duration.nanosecondsPerSecond]
  omega

/-- A read fails for its deadline exactly if the clock cannot show that. -/
theorem read_eq_error_iff (now timeout : Duration) (script : Script) :
    read now timeout script = .error {} ↔
      clockLimit * Duration.nanosecondsPerSecond <= now.toNanoseconds + timeout.toNanoseconds := by
  rw [← deadline?_eq_none_iff, read]
  cases deadline? now timeout with
  | none => exact iff_of_true rfl rfl
  | some clock => simp only [reduceCtorEq]

end Stream

/-! ## Milliseconds -/

namespace Duration

/-- A duration is a number of milliseconds, and no part of it is left over. -/
structure IsMilliseconds (duration : Duration) (milliseconds : Nat) : Prop where
  whole : duration.seconds * 1000 + duration.nanoseconds / 1000000 = milliseconds
  divides : duration.nanoseconds % 1000000 = 0
  carried : duration.nanoseconds < nanosecondsPerSecond

theorem isMilliseconds_ofMilliseconds (milliseconds : Nat) :
    IsMilliseconds (ofMilliseconds milliseconds) milliseconds where
  whole := by
    simp only [ofMilliseconds]
    omega
  divides := by
    simp only [ofMilliseconds]
    omega
  carried := by
    simp only [ofMilliseconds, nanosecondsPerSecond]
    omega

theorem IsMilliseconds.toNanoseconds_eq {duration : Duration} {milliseconds : Nat}
    (same : IsMilliseconds duration milliseconds) :
    duration.toNanoseconds = milliseconds * 1000000 := by
  rcases same with ⟨rfl, divides, _⟩
  simp only [toNanoseconds, nanosecondsPerSecond]
  omega

end Duration

/-! ## Settings -/

namespace Settings

/-- Settings that come from a file or stand in for one. -/
inductive Obtained : Settings -> Prop
  | defaults : Obtained defaults
  | loaded {files : Files} {path : String} {settings : Settings} :
      (load files path).result = .ok settings -> Obtained settings
  | chosen (files : Files) (path : Option String) : Obtained (choose files path).result

theorem Obtained.inRange {settings : Settings} (obtained : Obtained settings) :
    InRange settings := by
  cases obtained with
  | defaults => exact inRange_defaults
  | loaded read => exact inRange_of_load read
  | chosen files path => exact inRange_choose files path

/-- The timeout of settings at a time: it is at least one millisecond and fits
64 bits, the duration is that number of milliseconds, the clock shows the
deadline, and standard input can be read until then. -/
structure Timely (now : Duration) (settings : Settings) : Prop where
  least : 1 <= settings.timeoutMilliseconds
  most : settings.timeoutMilliseconds <= Nat.pow 2 64 - 1
  kept : settings.timeout.IsMilliseconds settings.timeoutMilliseconds
  shown : Exists fun clock =>
    Stream.deadline? now settings.timeout = some clock ∧
    clock.seconds < Stream.clockLimit ∧
    clock.toNanoseconds = now.toNanoseconds + settings.timeoutMilliseconds * 1000000
  read : forall terminal script, Exists fun reading =>
    (Stream.StandardInput.fresh terminal script settings.timeout).reading now = .ok reading

theorem timely_of_inRange {now : Duration} (early : EarlyClock now) {settings : Settings}
    (range : InRange settings) : Timely now settings := by
  have kept : settings.timeout.IsMilliseconds settings.timeoutMilliseconds :=
    Duration.isMilliseconds_ofMilliseconds _
  rcases deadline_of_inRange early range with ⟨clock, fits⟩
  rcases (Stream.deadline?_eq_some_iff _ _ _).mp fits with ⟨below, sum, carried⟩
  refine ⟨range.positive, Nat.le_sub_one_of_lt range.small, kept, ⟨clock, fits, ?_, ?_⟩, ?_⟩
  · rw [← sum, Duration.toNanoseconds] at below
    exact Nat.lt_of_mul_lt_mul_right (Nat.lt_of_le_of_lt (Nat.le_add_right _ _) below)
  · rw [sum, kept.toNanoseconds_eq]
  · intro terminal script
    exact ⟨_, Stream.StandardInput.reading_fresh (Stream.read_eq fits script)⟩

/-- A clock that shows a second of its first half is early. -/
theorem earlyClock_of_seconds {now : Duration} (early : now.seconds < Nat.pow 2 62)
    (carried : now.nanoseconds < Duration.nanosecondsPerSecond) : EarlyClock now := by
  have half : Nat.pow 2 62 = 4611686018427387904 := rfl
  rw [half] at early
  simp only [Duration.nanosecondsPerSecond] at carried
  simp only [EarlyClock, Duration.toNanoseconds, Duration.nanosecondsPerSecond, half]
  omega

end Settings

namespace Program

open CommandLine

/-- Standard input is given the timeout of the settings, and no other one. -/
theorem timeout_of_asked {arguments : List String} {choices : Choices}
    {surroundings : Surroundings} (accepted : parse arguments = .run choices)
    {timeout : Duration} {question : Stream.Source.Question}
    (asks : .input timeout question ∈ asked arguments surroundings) :
    timeout = (settings surroundings.files choices).result.timeout := by
  rw [asked_of_accepted accepted] at asks
  simp only [List.mem_cons, List.mem_append, List.mem_map, reduceCtorEq, and_false, exists_false,
    false_or, Question.input.injEq] at asks
  rcases asks with ⟨same, _⟩ | reads
  · exact same
  · split at reads
    · cases reads
    · cases List.mem_singleton.mp reads
      rfl

/-- On a clock in the first half of its range, no program ends because of a
deadline, whatever its command line, its files and its input are.  A command
line that is run gives standard input the timeout of the settings that are
used, and reports whom standard input is resolved to with this timeout.  These
settings, and all others that a file, the defaults or a fallback give, have a
timeout of at least one millisecond and of 64 bits at most, which is kept
exactly and whose deadline the clock can show.  A timeout that is longer than
the clock itself would end the program. -/
theorem run_within_clock (arguments : List String) {surroundings : Surroundings}
    (early : surroundings.now.seconds < Nat.pow 2 62)
    (carried : surroundings.now.nanoseconds < Duration.nanosecondsPerSecond) :
    (Exists fun report => run arguments surroundings = .ok report) ∧
    (forall choices, parse arguments = .run choices ->
      let chosen := settings surroundings.files choices
      Settings.Timely surroundings.now chosen.result ∧
      .input chosen.result.timeout .isTerminal ∈ asked arguments surroundings ∧
      (forall timeout question, .input timeout question ∈ asked arguments surroundings ->
        timeout = chosen.result.timeout) ∧
      Exists fun resolution =>
        Addressee.resolve ((Stream.StandardInput.fresh surroundings.terminal surroundings.input
          chosen.result.timeout).toSource surroundings.now) = .ok resolution ∧
        run arguments surroundings = .ok (report surroundings.filterSetting
          ⟨line choices chosen.result resolution.name, chosen.entries ++ resolution.entries⟩)) ∧
    (forall settings, Settings.Obtained settings -> Settings.Timely surroundings.now settings) ∧
    forall timeout script, Stream.clockLimit <= timeout.seconds ->
      Stream.read surroundings.now timeout script = .error {} := by
  have inTime := Settings.earlyClock_of_seconds early carried
  refine ⟨?_, ?_, ?_, ?_⟩
  · cases answered : parse arguments with
    | run choices =>
        rcases exists_resolved inTime choices with ⟨resolution, resolved, _⟩
        exact ⟨_, run_of_resolved answered rfl resolved⟩
    | help => exact ⟨_, by rw [run_eq, answered]; rfl⟩
    | version => exact ⟨_, by rw [run_eq, answered]; rfl⟩
    | refused refusal => exact ⟨_, by rw [run_eq, answered]; rfl⟩
  · intro choices accepted chosen
    rcases exists_resolved inTime choices with ⟨resolution, resolved, _⟩
    refine ⟨Settings.timely_of_inRange inTime (Settings.inRange_choose _ _), ?_, ?_,
      resolution, resolved, run_of_resolved accepted rfl resolved⟩
    · rw [asked_of_accepted accepted]
      exact List.mem_cons_of_mem _ (List.mem_append_right _ List.mem_cons_self)
    · intro timeout question asks
      exact timeout_of_asked accepted asks
  · intro settings obtained
    exact Settings.timely_of_inRange inTime obtained.inRange
  · intro timeout script long
    rw [Stream.read_eq_error_iff]
    have limit := Nat.mul_le_mul_right Duration.nanosecondsPerSecond long
    exact Nat.le_trans limit (Nat.le_trans (Nat.le_add_right _ _) (Nat.le_add_left _ _))

/-- The longest timeout that a file can state, at the last moment of the first
half of the clock. -/
theorem run_longest_timeout :
    Settings.Timely ⟨4611686018427387903, 999999999⟩ ⟨18446744073709551615, false⟩ ∧
    .input ⟨18446744073709551, 615000000⟩ .isTerminal ∈ asked ["--config", "greeter.json"]
      ⟨none, fun _ => .file (Bytes.ofText "\x7b\"read_timeout_ms\":18446744073709551615\x7d"),
        false, [.hang], ⟨4611686018427387903, 999999999⟩⟩ ∧
    Exists fun report => run ["--config", "greeter.json"]
      ⟨none, fun _ => .file (Bytes.ofText "\x7b\"read_timeout_ms\":18446744073709551615\x7d"),
        false, [.hang], ⟨4611686018427387903, 999999999⟩⟩ = .ok report := by
  have accepted : parse ["--config", "greeter.json"] = .run ⟨some "greeter.json", false⟩ := by
    decide
  have within := @run_within_clock ["--config", "greeter.json"]
    ⟨none, fun _ => .file (Bytes.ofText "\x7b\"read_timeout_ms\":18446744073709551615\x7d"),
      false, [.hang], ⟨4611686018427387903, 999999999⟩⟩ (by decide) (by decide)
  rcases within.2.1 _ accepted with ⟨timely, asks, _⟩
  exact ⟨timely, asks, within.1⟩

end Program
end Salutation
