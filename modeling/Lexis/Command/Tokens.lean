import Lexis.Command.Input
import Lexis.Report
import Lexis.Scanner.Steps
import Lexis.Token.Record

/-!
# Printing the tokens of a source

The whole source is scanned before anything is written, so that a source with an error leaves no
output. The tokens are written one after the other as lines of text, or together as a JSON array.
-/

namespace Lexis

/-- How tokens are written. -/
inductive OutputFormat where
  /-- A line of text for each token. -/
  | text
  /-- An array of records. -/
  | json
deriving DecidableEq, Repr

namespace OutputFormat

/-- The word for a format. -/
def word : OutputFormat → String
  | text => "text"
  | json => "json"

/-- The format that a word stands for. -/
def ofWord? (word : String) : Option OutputFormat :=
  if word = "text" then some text
  else if word = "json" then some json
  else none

end OutputFormat

/-- The outcome of scanning an input, and the events on the way. -/
structure InputScan where
  /-- The events, oldest first. -/
  events : List Event
  /-- The tokens with their places, unless the input cannot be read or has an error. -/
  tokens : Except Failure (List (Location × Token))

/-- Reads an input and scans all of it. -/
def Input.scan (files : Files) (stdin : StandardInput) (input : Input) : InputScan :=
  let reading := input.read files stdin
  match reading.text with
  | .error failure => { events := reading.events, tokens := .error failure }
  | .ok text =>
    let scan := (Scanner.ofSource text).located
    { events := reading.events ++ scan.events
      tokens := scan.answer.mapError (.scan input.label) }

/-- A request to print the tokens of an input. -/
structure TokensRequest where
  /-- Where the source text comes from. -/
  input : Input
  /-- How the tokens are written. -/
  format : OutputFormat
  /-- Says whether a line of text begins with the place of its token. -/
  positions : Bool
deriving DecidableEq, Repr

namespace TokensRequest

/-- The text form of a token and its kind, after its place if that is asked for. -/
def line (positions : Bool) (start : Location) (token : Token) : String :=
  let described := s!"{token.kind}\t{token}\n"
  if positions then s!"{start}\t" ++ described else described

/-- The writes of text output: one for each token. -/
def textWrites (positions : Bool) (tokens : List (Location × Token)) : List Action :=
  tokens.map fun (start, token) => .write (line positions start token) (.device .sinkFull)

/-- The writes of JSON output: the array, and a line feed after it. -/
def jsonWrites (tokens : List (Location × Token)) : List Action :=
  let records := tokens.map fun (start, token) => token.record start
  [.write (Json.array records).pretty (.json .sinkFull), .write "\n" (.device .sinkFull)]

/-- All writes for a list of tokens. -/
def writes (request : TokensRequest) (tokens : List (Location × Token)) : List Action :=
  match request.format with
  | .text => textWrites request.positions tokens
  | .json => jsonWrites tokens

/-- Carries out the request. The result is the number of tokens. -/
def report (files : Files) (stdin : StandardInput) (request : TokensRequest) : Report Nat :=
  let scan := request.input.scan files stdin
  match scan.tokens with
  | .error failure => .ofEvents scan.events (.error failure)
  | .ok tokens =>
    { actions :=
        scan.events.map .log ++ request.writes tokens
          ++ [.log (.sourceScanned request.input.label tokens.length)]
      result := .ok tokens.length }

end TokensRequest

end Lexis
