import Lexis.Command.Check
import Lexis.Configuration.Load
import Lexis.Log.Line
import Lexis.Options.CommandLine

/-!
# The program

A run as a whole: the command line is followed, the configuration is loaded, and the subcommand
does its work. All that a run depends on is given to it, and all that it leaves is its outcome.
-/

namespace Lexis

open Options

/-- What a run depends on besides its command line. -/
structure World where
  /-- The files, as they stand during the run. -/
  files : Files
  /-- What standard input gives. -/
  stdin : StandardInput
  /-- The directories in which configurations are kept. -/
  places : Configuration.Places

/-- What a run leaves. -/
structure Outcome where
  /-- The exit status. -/
  exit : UInt8
  /-- The bytes of standard output. -/
  output : List UInt8
  /-- The events that are logged. -/
  log : List Event := []
  /-- Says whether the log has colors. -/
  colored : Bool := false
  /-- What the user is told at the end. -/
  complaint : Option String := none

/-- The text on standard error, where all events share one stamp. -/
def Outcome.stderr (stamp : Stamp) (outcome : Outcome) : String :=
  let complaint :=
    match outcome.complaint with
    | none => ""
    | some message => s!"error: {message}\n"
  String.join (outcome.log.map (Event.line outcome.colored stamp)) ++ complaint

/-- The version of the program. -/
def version : String := "0.1.0"

/-- The text that says how a level of the command line is used. -/
def usage : Scope → String
  | .program =>
    "Scan math language sources\n\n"
      ++ "Usage: mlt [OPTIONS] <COMMAND>\n\n"
      ++ "Commands:\n"
      ++ "  tokens  Print the tokens of a source\n"
      ++ "  check   Check that source files scan without errors\n"
      ++ "  help    Print this text or that of a command\n"
  | .tokens => "Print the tokens of a source\n\nUsage: mlt tokens [OPTIONS] [FILE]\n"
  | .check =>
    "Check that source files scan without errors\n\nUsage: mlt check [OPTIONS] <FILES>...\n"

/-- The text of a notice. -/
def noticeText (scope : Scope) : Notice → String
  | .help => usage scope
  | .version => s!"{scope.title} {version}\n"

namespace Options.Task

/-- The work of a task under a configuration. -/
def report (task : Task) (world : World) (configuration : Configuration) : Report Unit :=
  match task with
  | .tokens file expr format positions =>
    match Input.ofArguments file expr with
    | .error fault => .ofEvents [] (.error (.input fault))
    | .ok input =>
      let request : TokensRequest :=
        { input
          format := format.getD configuration.output.format
          positions := positions || configuration.output.positions }
      let r := request.report world.files world.stdin
      { actions := r.actions, result := r.result.map fun _ => () }
  | .check paths =>
    let r := checkReport world.files paths
    match r.result with
    | .error failure => { actions := r.actions, result := .error failure }
    | .ok summary => { actions := r.actions ++ [.log (.allClean summary.passed)], result := .ok () }

end Options.Task

namespace Program

/-- The outcome of a run that fails. -/
def failed (colored : Bool) (log : List Event) (output : List UInt8) (failure : Failure) :
    Outcome where
  exit := 1
  output := output
  log := log
  colored := colored
  complaint := some failure.message

/-- The events that are logged: all but single steps, and none unless that is asked for. -/
def logged (verbose : Bool) (events : List Event) : List Event :=
  if verbose then events.filter fun event => event.severity != .trace else []

/-- Does the task of an invocation under a configuration, and logs where that comes from. -/
def performUnder (configuration : Configuration) (path? : Option String) (world : World)
    (invocation : Invocation) : Outcome :=
  let colored := !invocation.noColor
  let loaded := path?.toList.map .configurationLoaded
  let delivery := (invocation.task.report world configuration).deliver none
  let log := logged (invocation.verbose || configuration.verbose) (loaded ++ delivery.log)
  match delivery.result with
  | .error failure => failed colored log delivery.output failure
  | .ok () => { exit := 0, output := delivery.output, log := log, colored := colored }

/-- Does what a command line asks for. -/
def perform (world : World) (invocation : Invocation) : Outcome :=
  match Configuration.locate world.files world.places invocation.config with
  | .error failure => failed (!invocation.noColor) [] [] failure
  | .ok (configuration, path?) => performUnder configuration path? world invocation

/-- Runs the program. -/
def run (world : World) (env : Environment) (words : List String) : Outcome :=
  match follow env words with
  | .ok invocation => perform world invocation
  | .error (.misuse m) => { exit := 2, output := [], complaint := some m.message }
  | .error (.notice scope n) => { exit := 0, output := utf8 (noticeText scope n) }

end Program

namespace Options.Invocation

/-- The paths at which a run looks for files. -/
def paths (invocation : Invocation) (places : Configuration.Places) : List String :=
  let sources :=
    match invocation.task with
    | .tokens file _ _ _ => file.toList
    | .check files => files
  invocation.config.toList ++ places.candidates ++ sources

/-- Says whether a run reads standard input. -/
def readsStandardInput (invocation : Invocation) : Bool :=
  match invocation.task with
  | .tokens file expr _ _ => (Input.ofArguments file expr).toOption = some .standardInput
  | .check _ => false

end Options.Invocation

end Lexis
