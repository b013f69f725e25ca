import Salutation.Stream.Clock
import Salutation.Proofs.Settings.Acceptance

namespace Salutation
namespace Settings

/-!
# Timeouts and the clock

Whatever settings are used, their timeout is at least one millisecond and fits
64 bits, because the defaults do and because nothing else is loaded.  Such a
timeout is short for a clock that counts seconds in 64 bits.  A clock that has
run for less than half of its range can show every deadline.
-/

/-- Settings that leave some time to wait, in 64 bits. -/
structure InRange (settings : Settings) : Prop where
  positive : 1 <= settings.timeoutMilliseconds
  small : settings.timeoutMilliseconds < Nat.pow 2 64

theorem inRange_defaults : InRange defaults where
  positive := by decide
  small := by decide

theorem States.lt {content : Bytes} {milliseconds : Nat} {runtime : Option Bool}
    (states : States content (some milliseconds) runtime) : milliseconds < Nat.pow 2 64 := by
  cases states with
  | object _ _ _ stated _ =>
      rcases stated.written with ⟨_, written⟩
      exact written.lt
  | list _ _ _ placed =>
      cases placed with
      | timeout written => exact written.lt
      | both written _ => exact written.lt

/-- Settings that are loaded are in range. -/
theorem inRange_of_ofContent {content : Bytes} {settings : Settings}
    (loaded : ofContent content = .ok settings) : InRange settings where
  positive := timeout_pos_of_ofContent loaded
  small := by
    cases encoded : content.toText? with
    | none =>
        rw [ofContent_of_not_text encoded] at loaded
        cases loaded
    | some text =>
        rcases (ofContent_eq_ok_iff encoded settings).mp loaded with
          ⟨timeout, runtime, states, _, rfl⟩
        cases timeout with
        | none => exact inRange_defaults.small
        | some milliseconds => exact states.lt

theorem inRange_of_load {files : Files} {path : String} {settings : Settings}
    (loaded : (load files path).result = .ok settings) : InRange settings := by
  rw [load] at loaded
  cases node : files path with
  | missing =>
      rw [node] at loaded
      cases loaded
      exact inRange_defaults
  | directory =>
      rw [node] at loaded
      cases loaded
  | unreadable error =>
      rw [node] at loaded
      cases loaded
  | file content =>
      rw [node] at loaded
      exact inRange_of_ofContent loaded

/-- The settings of a path that cannot be loaded are the defaults. -/
theorem choose_some_result (files : Files) (path : String) :
    (choose files (some path)).result =
      match (load files path).result with
      | .ok settings => settings
      | .error _ => defaults := by
  simp only [choose, orDefaults, Diagnostics.Logged.andThen]
  cases (load files path).result with
  | ok settings => rfl
  | error error => rfl

/-- Whatever settings are used, they are in range. -/
theorem inRange_choose (files : Files) (path : Option String) :
    InRange (choose files path).result := by
  cases path with
  | none => exact inRange_defaults
  | some path =>
      rw [choose_some_result]
      split
      · next loaded => exact inRange_of_load loaded
      · exact inRange_defaults

/-- A clock that has run for less than half of the seconds it can count. -/
def EarlyClock (now : Duration) : Prop :=
  now.toNanoseconds < Nat.pow 2 62 * Duration.nanosecondsPerSecond

/-- A clock that has just been started is early. -/
theorem earlyClock_start : EarlyClock ⟨0, 0⟩ := by
  rw [EarlyClock]
  decide

/-- The clock can show the deadline of settings in range. -/
theorem deadline_of_inRange {now : Duration} (early : EarlyClock now) {settings : Settings}
    (range : InRange settings) :
    Exists fun clock => Stream.deadline? now settings.timeout = some clock := by
  have small := range.small
  have half : Nat.pow 2 62 = 4611686018427387904 := rfl
  have whole : Nat.pow 2 64 = 18446744073709551616 := rfl
  have limit : Stream.clockLimit = 9223372036854775808 := rfl
  simp only [EarlyClock, Duration.toNanoseconds, Duration.nanosecondsPerSecond, half] at early
  rw [whole] at small
  refine ⟨_, if_pos ?_⟩
  simp only [timeout, Duration.ofMilliseconds, Duration.nanosecondsPerSecond, limit]
  omega

end Settings
end Salutation
