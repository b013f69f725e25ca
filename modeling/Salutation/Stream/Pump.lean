import Salutation.Stream.Device

namespace Salutation
namespace Stream

/-!
# The pump

The pump calls a device again and again and passes on what the calls deliver,
until the stream ends or fails.  A call that was interrupted is made again, and
a call that does not return leaves the pump waiting.

What the pump passes on, with the times at which it does, is its feed.  The
feed is closed when the pump is done.
-/

/-- How many bytes a call has room for. -/
def chunkSize : Nat := 8192

/-- What the pump passes on. -/
inductive Message where
  | chunk (bytes : Bytes)
  | failure (error : DeviceError)
  deriving DecidableEq, Repr

/-- What one turn of the pump comes to. -/
inductive Turn where
  | chunk (bytes : Bytes) (later : Device)
  | retry (later : Device)
  | failure (error : DeviceError) (time : Nat)
  | finished (time : Nat)
  | waiting
  deriving DecidableEq, Repr

/-- One turn: a call, and what follows from what it delivers. -/
def turn (device : Device) : Turn :=
  match device.read chunkSize with
  | (.bytes [], later) => .finished later.now
  | (.bytes (byte :: bytes), later) => .chunk (byte :: bytes) later
  | (.failed error, later) =>
      if error.isInterruption then .retry later else .failure error later.now
  | (.never, _) => .waiting

/-- The device after a turn, when there is another turn to come. -/
def Turn.later? : Turn -> Option Device
  | .chunk _ later => some later
  | .retry later => some later
  | _ => none

theorem weight_leave (byte : UInt8) (bytes : Bytes) (rest : Script) :
    (Device.leave ((byte :: bytes).drop chunkSize) rest).weight <
      Script.weight (.data (byte :: bytes) :: rest) := by
  have shorter : ((byte :: bytes).drop chunkSize).length <= bytes.length := by
    rw [List.length_drop, List.length_cons, chunkSize]
    omega
  cases remaining : (byte :: bytes).drop chunkSize with
  | nil =>
      simp only [Device.leave, Script.weight, List.length_cons]
      omega
  | cons first others =>
      rw [remaining] at shorter
      simp only [Device.leave, Script.weight, List.length_cons] at shorter ⊢
      omega

/-- A call that neither ends nor blocks uses up some of the script. -/
theorem weight_readFrom (now : Nat) (script : Script) :
    (Device.readFrom chunkSize now script).1 = .bytes [] ∨
    (Device.readFrom chunkSize now script).1 = .never ∨
    (Device.readFrom chunkSize now script).2.script.weight < script.weight := by
  induction script generalizing now with
  | nil => exact .inl rfl
  | cons event rest inductionHypothesis =>
      cases event with
      | close => exact .inl rfl
      | hang => exact .inr (.inl rfl)
      | error error =>
          refine .inr (.inr ?_)
          simp only [Device.readFrom, Script.weight]
          omega
      | delay milliseconds =>
          simp only [Device.readFrom, Script.weight]
          rcases inductionHypothesis (now + milliseconds * 1000000) with same | same | shorter
          · exact .inl same
          · exact .inr (.inl same)
          · exact .inr (.inr (by omega))
      | data bytes =>
          cases bytes with
          | nil => exact .inl rfl
          | cons byte bytes => exact .inr (.inr (weight_leave byte bytes rest))

/-- A turn that is followed by another one uses up some of the script. -/
theorem weight_turn {device later : Device} (next : (turn device).later? = some later) :
    later.script.weight < device.script.weight := by
  have shorter := weight_readFrom device.now device.script
  simp only [turn, Device.read] at next
  cases called : Device.readFrom chunkSize device.now device.script with
  | mk delivery after =>
      rw [called] at next shorter
      cases delivery with
      | never => cases next
      | failed error =>
          simp only at next shorter
          split at next
          · cases next
            rcases shorter with impossible | impossible | shorter
            · cases impossible
            · cases impossible
            · exact shorter
          · cases next
      | bytes bytes =>
          cases bytes with
          | nil => cases next
          | cons byte bytes =>
              cases next
              rcases shorter with impossible | impossible | shorter
              · cases impossible
              · cases impossible
              · exact shorter

/-- What the pump passes on over time.  A feed that falls silent is not closed. -/
inductive Feed where
  | silent
  | closed (time : Nat)
  | sent (time : Nat) (message : Message) (rest : Feed)
  deriving DecidableEq, Repr

/-- The feed of a device. -/
def feed (device : Device) : Feed :=
  match _next : turn device with
  | .chunk bytes later => .sent later.now (.chunk bytes) (feed later)
  | .retry later => feed later
  | .failure error time => .sent time (.failure error) (.closed time)
  | .finished time => .closed time
  | .waiting => .silent
termination_by device.script.weight
decreasing_by
  · exact weight_turn (by rw [_next, Turn.later?])
  · exact weight_turn (by rw [_next, Turn.later?])

end Stream
end Salutation
