import Salutation.Program

namespace Salutation
namespace Main

/-!
# The executable

This module meets the outside.  It answers the questions of a run, one at a time
and no earlier than they are asked, and writes the report.  Everything in
between is decided by the program.
-/

/-- The variable that holds the setting of the filter. -/
def filterVariable : String := "GREETER_LOG"

/-- The number of the system error behind a fault, and zero for a fault without
one. -/
def errorNumber : IO.Error -> UInt32
  | .alreadyExists _ number _ | .otherError number _ | .resourceBusy number _
  | .resourceVanished number _ | .unsupportedOperation number _ | .hardwareFault number _
  | .unsatisfiedConstraints number _ | .illegalOperation number _ | .protocolError number _
  | .timeExpired number _ | .interrupted _ number _ | .noFileOrDirectory _ number _
  | .invalidArgument _ number _ | .permissionDenied _ number _ | .resourceExhausted _ number _
  | .inappropriateType _ number _ | .noSuchThing _ number _ => number
  | .unexpectedEof | .userError _ => 0

/-- What a path names.  A file is looked up before it is opened, and the two
steps can be told apart by the numbers of their errors, which are negative if
the look-up has failed.  Then nothing is found at the path, for whatever
reason: a component that is no directory or cannot be searched, a name that is
too long, or links that lead nowhere. -/
def nodeAt (path : String) : IO Node := do
  match ← (IO.FS.readBinFile path).toBaseIO with
  | .ok content => return .file content.toList
  | .error error =>
      let number := errorNumber error
      if number.toInt32 < 0 then return .missing
      else if number.toNat = Stream.readOfDirectory then return .directory
      else return .unreadable (.numbered number.toNat)

/-- Whether an event is the last one of a stream. -/
def isLast : Stream.Event -> Bool
  | .close => true
  | .error error => !error.isInterruption
  | _ => false

/-- Pass on what a stream gives until it ends, the latest event first.  The bytes
are taken one by one, because to ask for more is to wait for more. -/
partial def pump (input : IO.FS.Stream) (arrived : IO.Ref Stream.Script) : IO Unit := do
  let event : Stream.Event ←
    match ← (input.read 1).toBaseIO with
    | .ok bytes => pure (if bytes.isEmpty then .close else .data bytes.toList)
    | .error error => pure (.error (.numbered (errorNumber error).toNat))
  arrived.modify (fun events => event :: events)
  if isLast event then return
  pump input arrived

/-- Wait until a stream has ended or the time is up. -/
partial def await (arrived : IO.Ref Stream.Script) (deadline : Nat) : IO Unit := do
  if (← arrived.get).head?.any isLast || deadline <= (← IO.monoMsNow) then return
  IO.sleep 1
  await arrived deadline

/-- What arrives at standard input within a number of milliseconds. -/
def arrivals (milliseconds : Nat) : IO Stream.Script := do
  let arrived ← IO.mkRef []
  let input ← IO.getStdin
  let deadline := (← IO.monoMsNow) + milliseconds
  let _ ← IO.asTask (pump input arrived) Task.Priority.dedicated
  await arrived deadline
  return (← arrived.get).reverse ++ [.hang]

/-- Standard input with what arrives there within a timeout.  It is read only when
it is no terminal. -/
def standardInput (timeout : Duration) : IO Stream.StandardInput := do
  let input ← arrivals (timeout.toNanoseconds / 1000000)
  return .fresh false input timeout

/-- Answer a question of a run.  Standard input is read when that is asked for,
on a clock that starts then. -/
def answer :
    (question : Program.Question) -> ExceptT Stream.ClockOverflow IO question.Answer
  | .filterSetting => do
      let setting : Option String ← IO.getEnv filterVariable
      return setting
  | .node path => do
      let node : Node ← nodeAt path
      return node
  | .input _ .isTerminal => do
      let input ← IO.getStdin
      let terminal : Bool ← input.isTty
      return terminal
  | .input timeout .readAll => do
      let input ← standardInput timeout
      input.reading ⟨0, 0⟩

/-- Run a command line outside. -/
def perform (arguments : List String) : ExceptT Stream.ClockOverflow IO Program.Report :=
  (Program.inquiry arguments).run answer

/-- Write a report. -/
def deliver (report : Program.Report) : IO UInt32 := do
  let output ← IO.getStdout
  let diagnostics ← IO.getStderr
  diagnostics.putStr report.diagnostics
  output.putStr report.output
  output.flush
  return UInt32.ofNat report.exitCode

end Main
end Salutation

/-- Greet whomever standard input names. -/
def main (arguments : List String) : IO UInt32 := do
  match ← (Salutation.Main.perform arguments).run with
  | .ok report => Salutation.Main.deliver report
  | .error _ =>
      (← IO.getStderr).putStrLn Salutation.Stream.ClockOverflow.message
      return 134
