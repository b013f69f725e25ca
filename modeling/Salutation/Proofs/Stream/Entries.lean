import Salutation.Stream.StandardInput
import Salutation.Proofs.Stream.Arrival

namespace Salutation
namespace Stream

/-!
# What is recorded about a read

However a read ends, what it records comes from the input and is a detail: it
is shown to those who look for details, and it never passes for something that
another part of the program has to say.
-/

/-- An entry is a detail about a read. -/
structure IsReadDetail (entry : Diagnostics.Entry) : Prop where
  target : entry.target = inputTarget
  level : entry.level = .debug

/-- All entries that go with a reading are details about it. -/
def RecordsDetails (reading : Reading) : Prop :=
  forall entry, entry ∈ reading.entries -> IsReadDetail entry

theorem recordsDetails_quiet (result : Except Failure Bytes) : RecordsDetails (.quiet result) := by
  intro entry member
  cases member

theorem recordsDetails_noting (result : Except Failure Bytes) {entry : Diagnostics.Entry}
    (detail : IsReadDetail entry) : RecordsDetails (.noting result entry) := by
  intro other member
  cases List.mem_singleton.mp member
  exact detail

theorem recordsDetails_failWith (error : DeviceError) (buffer : Bytes) :
    RecordsDetails (failWith error buffer) := by
  cases buffer with
  | nil => exact recordsDetails_quiet _
  | cons byte bytes => exact recordsDetails_noting _ ⟨rfl, rfl⟩

theorem recordsDetails_expire (timeout : Duration) (buffer : Bytes) :
    RecordsDetails (expire timeout buffer) := by
  cases buffer with
  | nil => exact recordsDetails_quiet _
  | cons byte bytes => exact recordsDetails_noting _ ⟨rfl, rfl⟩

theorem recordsDetails_outcome (timeout : Duration) (script : Script) :
    RecordsDetails (outcome timeout script) := by
  by_cases early : script.endingTime < timeout.toNanoseconds
  · rw [outcome_of_ending rfl early]
    cases script.ending with
    | endOfStream => exact recordsDetails_quiet _
    | failed error => exact recordsDetails_failWith error _
    | blocked => exact recordsDetails_expire timeout _
  · rw [outcome_of_deadline (.inr (Nat.not_lt.mp early))]
    exact recordsDetails_expire timeout _

/-- Standard input adds the size of what was read to the entries. -/
theorem RecordsDetails.announce {reading : Reading} (details : RecordsDetails reading) :
    RecordsDetails (StandardInput.announce reading) := by
  rw [StandardInput.announce]
  split
  · exact details
  · intro entry member
    rcases List.mem_append.mp member with member | member
    · exact details entry member
    · cases List.mem_singleton.mp member
      exact ⟨rfl, rfl⟩

end Stream
end Salutation
