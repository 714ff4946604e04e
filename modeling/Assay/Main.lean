import Assay.Execute
import Std.Time

/-!
# The program

Reads the files that a command line names, carries it out and writes the answer.
-/

namespace Assay.Program

/-- Why an operation on a file fails. -/
def failureCause : IO.Error → String
  | .noFileOrDirectory _ code details => details ++ " (os error " ++ toString code ++ ")"
  | .permissionDenied _ code details => details ++ " (os error " ++ toString code ++ ")"
  | .inappropriateType _ code details => details ++ " (os error " ++ toString code ++ ")"
  | .invalidArgument _ code details => details ++ " (os error " ++ toString code ++ ")"
  | .resourceExhausted _ code details => details ++ " (os error " ++ toString code ++ ")"
  | .otherError code details => details ++ " (os error " ++ toString code ++ ")"
  | error => toString error

/-- Looks at what is at a path. -/
def viewFile (path : String) : IO (Except String Output) := do
  match ← (IO.FS.Handle.mk path .read).toBaseIO with
  | .error error => return .error (failureCause error)
  | .ok handle =>
    match ← handle.readBinToEnd.toBaseIO with
    | .ok bytes => return .ok ⟨bytes.toList, none⟩
    | .error error => return .ok ⟨[], some (failureCause error)⟩

/-- Looks at what is at some paths. -/
def viewFiles (paths : List String) : IO FileView := do
  let views ← paths.mapM fun path => do return (path, ← viewFile path)
  return fun path => (views.lookup path).getD (.error "")

/-- The time of day as a report tells it. -/
def timestampNow : IO String := do
  let now ← Std.Time.Timestamp.now
  return (Std.Time.DateTime.ofTimestamp now .UTC).format "uuuu-MM-dd'T'HH:mm:ss.SSS'Z'"

/-- A number of milliseconds as seconds with one decimal. -/
def secondsText (milliseconds : Nat) : String :=
  let tenths := (milliseconds + 50) / 100
  toString (tenths / 10) ++ "." ++ toString (tenths % 10)

/-- Answers a request to run, telling how long it takes. -/
def runTimed (console : Console) (request : RunRequest) : IO Answer := do
  let start ← IO.monoMsNow
  let files ← viewFiles (request.config :: request.outputs)
  match console.prepare files request with
  | .error refusal => return refusal
  | .ok (format, outcomes) =>
    let stop ← IO.monoMsNow
    return console.report format ⟨← timestampNow, secondsText (stop - start)⟩ outcomes

/-- Answers a command line. -/
def answerLine (line : CommandLine) : IO Answer := do
  match line.command with
  | .run request => runTimed line.console request
  | .check path => return line.console.check (← viewFiles [path]) path
  | .parsers => return parsersAnswer

/-- Answers the words of a command line, and gives the exit code. -/
def run (words : List String) : IO UInt32 := do
  let answer ←
    match CommandLine.read words with
    | .ok line => answerLine line
    | .error error => pure error.answer
  IO.print answer.stdout
  IO.eprint answer.stderr
  return answer.code.toUInt32

end Assay.Program

/-- Runs the program. -/
def main (words : List String) : IO UInt32 := Assay.Program.run words
