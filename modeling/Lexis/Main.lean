import Lexis.Program
import Std.Time.Format

/-!
# The executable

Gathers what a run depends on, runs the program, and writes what it leaves. Files are read once,
before the run, at those paths only at which the run looks.
-/

namespace Lexis.Executable

open Options

/-- The wording of an error, with its code where the system gives one. -/
def reasonOfError : IO.Error → String
  | .inappropriateType _ code details => s!"{details} (os error {code})"
  | .permissionDenied _ code details => s!"{details} (os error {code})"
  | other => toString other

/-- What lies at a path that could not be read. A path that cannot even be looked up, which is told
by a code below zero, counts as missing. -/
def entryOfError (error : IO.Error) : Entry :=
  match error with
  | .noFileOrDirectory _ _ _ => .missing
  | .inappropriateType _ code _ =>
    if code = 21 then .directory
    else if code < 0x80000000 then .unreadable (reasonOfError error)
    else .missing
  | .permissionDenied _ code _ =>
    if code < 0x80000000 then .unreadable (reasonOfError error) else .missing
  | _ => .unreadable (reasonOfError error)

/-- Reads what lies at a path. -/
def readEntry (path : String) : IO Entry := do
  match ← (IO.FS.readBinFile path).toBaseIO with
  | .ok content => return .file content
  | .error error => return entryOfError error

/-- Reads what lies at the given paths. -/
def readFiles (paths : List String) : IO Files := do
  let entries ← paths.eraseDups.mapM fun path => return (path, ← readEntry path)
  return fun path => (entries.lookup path).getD .missing

/-- Reads standard input to its end. -/
def readStandardInput : IO StandardInput := do
  let stdin ← IO.getStdin
  match ← stdin.readBinToEnd.toBaseIO with
  | .ok content => return .bytes content
  | .error error => return .unreadable (reasonOfError error)

/-- The variables of the environment that stand in for words. -/
def readEnvironment : IO Environment := do
  return {
    verbose := ← IO.getEnv "MLT_VERBOSE"
    noColor := ← IO.getEnv "MLT_NO_COLOR"
    config := ← IO.getEnv "MLT_CONFIG" }

/-- The directories in which configurations are kept. -/
def readPlaces : IO Configuration.Places := do
  return {
    home := (← IO.getEnv "HOME").filter fun path => !path.isEmpty
    named := (← IO.getEnv "XDG_CONFIG_HOME").filter fun path => path.startsWith "/" }

/-- Gathers what a run with the given words depends on. -/
def readWorld (env : Environment) (words : List String) : IO World := do
  let places ← readPlaces
  match follow env words with
  | .error _ => return { files := fun _ => .missing, stdin := .empty, places }
  | .ok invocation =>
    let files ← readFiles (invocation.paths places)
    let stdin ← if invocation.readsStandardInput then readStandardInput else pure .empty
    return { files, stdin, places }

/-- The time of the clock, in universal time. -/
def readTime : IO String := do
  let now ← Std.Time.Timestamp.now
  let moment := Std.Time.PlainDateTime.ofWallTime (now.toWallTime .zero)
  return moment.format "uuuu-MM-dd'T'HH:mm:ss.SSSSSS'Z'"

/-- Writes what a run leaves. Output that nobody takes is a failure of its own. -/
def writeOutcome (stamp : Stamp) (outcome : Outcome) : IO UInt32 := do
  let out ← IO.getStdout
  let err ← IO.getStderr
  try
    out.write ⟨outcome.output.toArray⟩
    out.flush
  catch error =>
    err.putStr s!"error: {(Failure.device (.stated (toString error))).message}\n"
    return 1
  err.putStr (outcome.stderr stamp)
  return outcome.exit.toUInt32

end Lexis.Executable

/-- Runs the program with the words of the command line. -/
def main (words : List String) : IO UInt32 := do
  let env ← Lexis.Executable.readEnvironment
  let world ← Lexis.Executable.readWorld env words
  let started ← IO.monoMsNow
  let outcome := Lexis.Program.run world env words
  let stamp : Lexis.Stamp :=
    { time := ← Lexis.Executable.readTime
      elapsed := toString ((← IO.monoMsNow) - started) }
  Lexis.Executable.writeOutcome stamp outcome
