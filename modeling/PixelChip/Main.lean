import PixelChip.Dissect.Run
import Std.Time

/-!
# The dissector as a program

Runs the dissector on the arguments of the program, with the files, the environment and the
terminal of the process around it.
-/

namespace PixelChip
namespace Program

/-- A time of day to the second. -/
def timeText (hour minute second : Nat) : String :=
  ":".intercalate ([hour, minute, second].map (Text.padded 10 2))

/-- The local time of day, or universal time where no time zone is known. -/
def timeOfDay : IO String := do
  try
    let now ← Std.Time.PlainTime.now
    return timeText now.hour.val.toNat now.minute.val.toNat now.second.val.toNat
  catch _ =>
    let now ← Std.Time.Timestamp.now
    let seconds := now.toSecondsSinceUnixEpoch.val.toNat % 86400
    return timeText (seconds / 3600) (seconds / 60 % 60) (seconds % 60)

/-- The error with a number, which may come negated in 32 bits. One that paths are not known for
keeps the text that it comes with. -/
def osErrorOf (code : UInt32) (text : String) : OsError :=
  let number := (if code < 0x80000000 then code else 0 - code).toNat
  (OsError.ofPaths.find? (·.code = number)).getD ⟨number, text⟩

/-- The error of the operating system behind a failure. -/
def osError : IO.Error → OsError
  | .noFileOrDirectory _ code text | .permissionDenied _ code text
  | .inappropriateType _ code text | .invalidArgument _ code text | .otherError code text =>
    osErrorOf code text
  | error => ⟨5, error.toString⟩

/-- The outcome of an action, with its failure as an error of the operating system. -/
def attempt {α : Type} (action : IO α) : IO (Except OsError α) := do
  try
    return .ok (← action)
  catch error =>
    return .error (osError error)

/-- The bytes of the file that the arguments name, if they name one. -/
def capture (arguments : List String) : IO (Except OsError (List UInt8)) := do
  match DissectRequest.ofArguments arguments with
  | .dissect options => attempt do return (← IO.FS.readBinFile options.input).toList
  | .help _ | .version | .usageError => return .error .noSuchFile

/-- Some lines of text, each ended. -/
def joinLines (lines : List String) : String :=
  String.join (lines.map (· ++ "\n"))

/-- Prints an outcome and answers with the exit status. -/
def report (outcome : Outcome) : IO UInt32 := do
  let stdout ← IO.getStdout
  let stderr ← IO.getStderr
  let time ← timeOfDay
  stderr.putStr (joinLines outcome.reported)
  stdout.putStr (joinLines (outcome.records.map (·.text time) ++ outcome.printed))
  stdout.flush
  return .ofNat outcome.exit

/-- Runs the dissector. Where the file that it writes cannot be written, it runs once more and
reports that. -/
def run (arguments : List String) : IO UInt32 := do
  let contents ← capture arguments
  let surroundings : Surroundings :=
    { read := fun _ => contents
      create := fun _ => .ok ()
      logFilter := ← IO.getEnv "RUST_LOG"
      terminal := ← (← IO.getStdout).isTty }
  let outcome := Dissector.run surroundings arguments
  match outcome.written with
  | none => report outcome
  | some (path, lines) =>
    match ← attempt (IO.FS.writeFile path (joinLines lines)) with
    | .ok () => report outcome
    | .error error =>
      report (Dissector.run { surroundings with create := fun _ => .error error } arguments)

end Program
end PixelChip

def main (arguments : List String) : IO UInt32 :=
  PixelChip.Program.run arguments
