import Salutation.Proofs.Stream.Arrival

namespace Salutation
namespace Stream

/-!
# Reads that wait longer

A read with a later deadline sees all that a read with an earlier one sees, and
perhaps more.  So it extends what the other one gives: bytes stay at the
beginning of the bytes, and an error of the device stays that error.  Only the
complaint that nothing came in time can become something else, and nothing
changes at all when the stream had ended before the earlier deadline.
-/

namespace Script

/-! ## What arrives before two deadlines -/

/-- What has arrived before a deadline is the beginning of what has arrived
before a later one. -/
theorem arrivedFrom_isPrefix {earlier later : Nat} (order : earlier <= later) (now : Nat)
    (script : Script) :
    List.IsPrefix (arrivedFrom earlier now script) (arrivedFrom later now script) := by
  induction script generalizing now with
  | nil => exact List.nil_prefix
  | cons event rest inductionHypothesis =>
      cases found : event.ending? with
      | some ending =>
          rw [arrivedFrom_cons_some _ _ _ found]
          exact List.nil_prefix
      | none =>
          rw [arrivedFrom_cons_none _ _ _ found, arrivedFrom_cons_none _ _ _ found]
          by_cases early : now < earlier
          · rw [if_pos early, if_pos (Nat.lt_of_lt_of_le early order)]
            exact (List.prefix_append_right_inj _).mpr (inductionHypothesis _)
          · have late := Nat.not_lt.mp early
            rw [if_neg early, arrivedFrom_late rest (Nat.le_trans late (Nat.le_add_right _ _))]
            exact List.nil_prefix

/-- Before a deadline that comes after the end of the stream, all data has
arrived. -/
theorem arrivedFrom_eq_content {deadline now : Nat} {script : Script}
    (ended : now + script.endingTime < deadline) :
    script.arrivedFrom deadline now = script.content := by
  induction script generalizing now with
  | nil => rfl
  | cons event rest inductionHypothesis =>
      cases found : event.ending? with
      | some ending =>
          rw [arrivedFrom_cons_some _ _ _ found, content, live_cons_some rest found]
          rfl
      | none =>
          rw [endingTime, live_cons_none rest found, elapsed, ← endingTime] at ended
          have early : now < deadline := Nat.lt_of_le_of_lt (Nat.le_add_right _ _) ended
          rw [arrivedFrom_cons_none _ _ _ found, if_pos early, content_cons_none rest found,
            inductionHypothesis (by rw [Nat.add_assoc]; exact ended)]

end Script

/-! ## What a read gives before two deadlines -/

/-- A result that goes on from another one: at least as many bytes, or the same
error of the device. -/
inductive Extends : Except Failure Bytes -> Except Failure Bytes -> Prop
  | bytes {fewer more : Bytes} : List.IsPrefix fewer more -> Extends (.ok fewer) (.ok more)
  | device (error : DeviceError) :
      Extends (.error (.device error)) (.error (.device error))

theorem Extends.ok {bytes : Bytes} {result : Except Failure Bytes}
    (extended : Extends (.ok bytes) result) :
    Exists fun more => result = .ok more ∧ List.IsPrefix bytes more := by
  cases extended with
  | bytes beginning => exact ⟨_, rfl, beginning⟩

theorem Extends.error {error : DeviceError} {result : Except Failure Bytes}
    (extended : Extends (.error (.device error)) result) : result = .error (.device error) := by
  cases extended with
  | device => rfl

/-- The end of a stream that is not blocked does not look at the timeout. -/
theorem endWith_timeout {ending : Ending} (ends : ending ≠ .blocked) (shorter longer : Duration)
    (buffer : Bytes) : endWith longer buffer ending = endWith shorter buffer ending := by
  cases ending with
  | endOfStream => rfl
  | failed error => rfl
  | blocked => exact absurd rfl ends

theorem extends_endWith {ending : Ending} (ends : ending ≠ .blocked) (timeout : Duration)
    (buffer : Bytes) :
    Extends (endWith timeout buffer ending).result (endWith timeout buffer ending).result := by
  cases ending with
  | endOfStream => exact .bytes List.prefix_rfl
  | failed error =>
      cases buffer with
      | nil => exact .device error
      | cons byte bytes => exact .bytes List.prefix_rfl
  | blocked => exact absurd rfl ends

section

variable {shorter longer : Duration} {script : Script}

/-- A stream that has ended before the earlier deadline gives the same before
the later one, and records the same. -/
theorem outcome_ended (order : shorter.toNanoseconds <= longer.toNanoseconds)
    (ends : script.ending ≠ .blocked) (early : script.endingTime < shorter.toNanoseconds) :
    outcome longer script = outcome shorter script := by
  have whole {timeout : Duration} (inTime : script.endingTime < timeout.toNanoseconds) :
      script.arrived timeout.toNanoseconds = script.content :=
    Script.arrivedFrom_eq_content (by rw [Nat.zero_add]; exact inTime)
  have later := Nat.lt_of_lt_of_le early order
  rw [outcome_of_ending rfl early, outcome_of_ending rfl later, whole early, whole later,
    endWith_timeout ends]

/-- A stream that is cut off by the earlier deadline gives nothing, or the
beginning of what it gives before the later one. -/
theorem outcome_expired (order : shorter.toNanoseconds <= longer.toNanoseconds)
    (late : script.ending = .blocked ∨ shorter.toNanoseconds <= script.endingTime) :
    (outcome shorter script).result = .error (.timedOut shorter) ∨
      Extends (outcome shorter script).result (outcome longer script).result := by
  have beginning := script.arrivedFrom_isPrefix order 0
  rw [outcome_of_deadline late]
  cases arrived : script.arrived shorter.toNanoseconds with
  | nil => exact .inl rfl
  | cons byte bytes =>
      rw [← Script.arrived, arrived] at beginning
      rcases outcome_result longer script with given | ⟨nothing, _⟩
      · rw [given]
        exact .inr (.bytes beginning)
      · rw [← Script.arrived, nothing] at beginning
        cases List.prefix_nil.mp beginning

/-- A read that waits longer extends what the shorter one gives, unless that
gives nothing because its time is up. -/
theorem outcome_extends (order : shorter.toNanoseconds <= longer.toNanoseconds) (script : Script) :
    (outcome shorter script).result = .error (.timedOut shorter) ∨
      Extends (outcome shorter script).result (outcome longer script).result := by
  by_cases late : script.ending = .blocked ∨ shorter.toNanoseconds <= script.endingTime
  · exact outcome_expired order late
  · rw [not_or, Nat.not_le] at late
    rcases late with ⟨ends, early⟩
    rw [outcome_ended order ends early, outcome_of_ending rfl early]
    exact .inr (extends_endWith ends shorter _)

end

/-! ## Reading -/

/-- A clock that can show a deadline can show every earlier one. -/
theorem deadline?_of_shorter {now shorter longer clock : Duration}
    (fits : deadline? now longer = some clock)
    (order : shorter.toNanoseconds <= longer.toNanoseconds) :
    Exists fun earlier => deadline? now shorter = some earlier := by
  simp only [deadline?, Duration.nanosecondsPerSecond] at fits ⊢
  have small := (Option.ite_none_right_eq_some.mp fits).1
  simp only [Duration.toNanoseconds, Duration.nanosecondsPerSecond] at order
  exact ⟨_, if_pos (by omega)⟩

/-- Waiting longer only adds input.  If a read gives bytes, a read that waits
longer gives them and perhaps more after them, and if the device fails before
anything has arrived, the longer read fails in the same way.  Only a read that
has nothing to show when its time is up can become something else.  If the
stream ended or failed before the earlier deadline, what the read gives and
what it records are the same. -/
theorem read_longer {now shorter longer clock : Duration}
    (fits : deadline? now longer = some clock)
    (order : shorter.toNanoseconds < longer.toNanoseconds) (script : Script) :
    Exists fun first => Exists fun second =>
      read now shorter script = .ok first ∧ read now longer script = .ok second ∧
      (forall bytes, first.result = .ok bytes ->
        Exists fun more => second.result = .ok more ∧ List.IsPrefix bytes more) ∧
      (forall error, first.result = .error (.device error) ->
        second.result = .error (.device error)) ∧
      (forall timeout, first.result = .error (.timedOut timeout) ->
        timeout = shorter ∧ script.arrived shorter.toNanoseconds = []) ∧
      (script.ending ≠ .blocked -> script.endingTime < shorter.toNanoseconds ->
        second = first) := by
  have weak := Nat.le_of_lt order
  rcases deadline?_of_shorter fits weak with ⟨earlier, also⟩
  have either := outcome_extends weak script
  refine ⟨_, _, read_eq also script, read_eq fits script, ?_, ?_, ?_, outcome_ended weak⟩
  · intro bytes given
    rw [given] at either
    rcases either with impossible | extended
    · cases impossible
    · exact extended.ok
  · intro error failed
    rw [failed] at either
    rcases either with impossible | extended
    · cases impossible
    · exact extended.error
  · intro timeout failed
    rcases outcome_result shorter script with given | ⟨nothing, _⟩
    · cases given.symm.trans failed
    · rw [failed] at either
      rcases either with same | impossible
      · cases same
        exact ⟨rfl, nothing⟩
      · cases impossible

/-- A stream that pauses past the earlier deadline, and fails before the later
one. -/
theorem read_past_pause :
    Exists fun first => Exists fun second =>
      read ⟨0, 0⟩ ⟨1, 0⟩ [.data [0x61], .delay 2000, .data [0x62], .error (.plain .brokenPipe)] =
        .ok first ∧
      read ⟨0, 0⟩ ⟨3, 0⟩ [.data [0x61], .delay 2000, .data [0x62], .error (.plain .brokenPipe)] =
        .ok second ∧
      first.result = .ok [0x61] ∧
      Exists fun more => second.result = .ok more ∧ List.IsPrefix [0x61] more := by
  have late : Duration.toNanoseconds ⟨1, 0⟩ <= Script.endingTime
      [.data [0x61], .delay 2000, .data [0x62], .error (.plain .brokenPipe)] := by
    decide
  rcases @read_longer ⟨0, 0⟩ ⟨1, 0⟩ ⟨3, 0⟩ ⟨3, 0⟩ rfl (by decide)
    [.data [0x61], .delay 2000, .data [0x62], .error (.plain .brokenPipe)] with
    ⟨first, second, given, later, added, _⟩
  have fits : deadline? ⟨0, 0⟩ ⟨1, 0⟩ = some ⟨1, 0⟩ := rfl
  rw [read_eq fits, outcome_of_deadline (.inr late), Except.ok.injEq] at given
  have shown : first.result = .ok [0x61] := by
    rw [← given]
    rfl
  rw [read_eq fits, outcome_of_deadline (.inr late), given]
  exact ⟨first, second, rfl, later, shown, added _ shown⟩

end Stream
end Salutation
