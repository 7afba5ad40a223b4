import Lexis.Command.Input
import Lexis.Report
import Lexis.Scanner.Items

/-!
# Checking source files

Every file is scanned up to its first error, and one line tells how that went. Files with errors
are counted and do not end the check; a file that cannot be read does.
-/

namespace Lexis

/-- How many files passed a check and how many did not. -/
structure CheckSummary where
  /-- The number of files without an error. -/
  passed : Nat := 0
  /-- The number of files with an error. -/
  failed : Nat := 0
deriving DecidableEq, Repr

/-- The outcome of checking one file, and the events on the way. -/
structure FileCheck where
  /-- The events, oldest first. -/
  events : List Event
  /-- The number of tokens, unless the file cannot be read or has an error. -/
  outcome : Except Failure Nat

/-- Checks one file: counts its tokens up to the first error. -/
def checkFile (files : Files) (path : String) : FileCheck :=
  let reading := readSource files path
  match reading.text with
  | .error failure => { events := reading.events, outcome := .error failure }
  | .ok text =>
    let scan := (Scanner.ofSource text).countFrom 0
    { events := reading.events ++ scan.events, outcome := scan.answer.mapError (.scan path) }

/-- The result of a check that has come to its end: the summary, if no file has failed. -/
def CheckSummary.result (summary : CheckSummary) (total : Nat) : Except Failure CheckSummary :=
  if summary.failed = 0 then .ok summary else .error (.check summary.failed total)

/-- Checks the remaining files of a check of `total` files, after those that are in the summary. -/
def checkRemaining (files : Files) (total : Nat) :
    CheckSummary → List String → Report CheckSummary
  | summary, [] => { actions := [], result := summary.result total }
  | summary, path :: later =>
    let check := checkFile files path
    match check.outcome with
    | .ok count =>
      (checkRemaining files total { summary with passed := summary.passed + 1 } later).after
        (check.events.map .log
          ++ [.write s!"{path}: ok ({count} tokens)\n" (.device .sinkFull)])
    | .error (.scan label error) =>
      (checkRemaining files total { summary with failed := summary.failed + 1 } later).after
        (check.events.map .log
          ++ [.log (.checkFailed path),
            .write s!"{(Failure.scan label error).message}\n" (.device .sinkFull)])
    | .error failure => .ofEvents check.events (.error failure)

/-- Checks all files in their order. There must be at least one. -/
def checkReport (files : Files) (paths : List String) : Report CheckSummary :=
  if paths.isEmpty then { actions := [], result := .error (.input .noFiles) }
  else checkRemaining files paths.length {} paths

end Lexis
