import Lexis.Source.LexError
import Lexis.Token

/-!
# Events

What a run does is told as a sequence of events. Each has a severity, a message and named fields;
how they are written down is left to the log.
-/

namespace Lexis

/-- How much detail an event is about. -/
inductive Severity where
  /-- Single steps of a scan. -/
  | trace
  /-- The course of a whole run. -/
  | debug
deriving DecidableEq, Repr

/-- Something that happened during a run. -/
inductive Event where
  /-- A token of the given kind was read that starts at `start`. -/
  | tokenScanned (kind : TokenKind) (start : Location)
  /-- Reading a token failed. -/
  | scanFailed (error : LexError)
  /-- The configuration was taken from a file. -/
  | configurationLoaded (path : String)
  /-- A source file was found and is about to be read. -/
  | readingSource (path : String)
  /-- A source was scanned to its end and its tokens were written. -/
  | sourceScanned (label : String) (tokens : Nat)
  /-- A file did not pass a check. -/
  | checkFailed (path : String)
  /-- All files passed a check. -/
  | allClean (passed : Nat)
deriving DecidableEq, Repr

/-- The value of a field of an event. -/
inductive FieldValue where
  /-- A text. -/
  | text (s : String)
  /-- A count. -/
  | count (n : Nat)
  /-- The time that the work took, which only the clock knows. -/
  | elapsed
deriving DecidableEq, Repr

namespace Event

/-- The severity of an event: single tokens are traced, all else is of interest when debugging. -/
def severity : Event → Severity
  | tokenScanned _ _ => .trace
  | _ => .debug

/-- The message of an event. -/
def message : Event → String
  | tokenScanned _ _ => "scanned token"
  | scanFailed _ => "scan failed"
  | configurationLoaded _ => "loaded configuration"
  | readingSource _ => "reading source"
  | sourceScanned _ _ => "scanned source"
  | checkFailed _ => "check failed"
  | allClean _ => "all files scanned cleanly"

/-- The fields of an event in the order in which they are written. -/
def fields : Event → List (String × FieldValue)
  | tokenScanned kind start =>
    [("kind", .text kind.word), ("line", .count start.line.toNat),
      ("column", .count start.column.toNat)]
  | scanFailed error => [("error", .text error.message)]
  | configurationLoaded path => [("path", .text path)]
  | readingSource path => [("path", .text path)]
  | sourceScanned label tokens =>
    [("input", .text label), ("tokens", .count tokens), ("elapsed_ms", .elapsed)]
  | checkFailed path => [("path", .text path)]
  | allClean passed => [("passed", .count passed)]

end Event

end Lexis
