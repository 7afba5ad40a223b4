import Lexis.Log.Event

/-!
# Log lines

An event is written as one line: the time, the severity, the message and the fields. On a terminal
that shows colors the time and the equals signs are dimmed, names of fields are in italics, and
every severity has its own color.
-/

namespace Lexis

/-- What only a clock can tell about an event. -/
structure Stamp where
  /-- The time of the event. -/
  time : String
  /-- The number of milliseconds that the work took. -/
  elapsed : String
deriving DecidableEq, Repr

/-- The word for a severity. -/
def Severity.word : Severity → String
  | trace => "TRACE"
  | debug => "DEBUG"

/-- The code of the color of a severity. -/
def Severity.color : Severity → String
  | trace => "35"
  | debug => "34"

/-- The text of the value of a field. -/
def FieldValue.display (stamp : Stamp) : FieldValue → String
  | text s => s
  | count n => toString n
  | elapsed => stamp.elapsed

/-- A text to which a terminal gives the look of the given code. -/
def styled (colored : Bool) (code text : String) : String :=
  if colored then s!"\x1b[{code}m{text}\x1b[0m" else text

namespace Event

/-- A field of an event after a blank. -/
def fieldText (colored : Bool) (stamp : Stamp) (field : String × FieldValue) : String :=
  " " ++ styled colored "3" field.1 ++ styled colored "2" "=" ++ field.2.display stamp

/-- The line for an event. -/
def line (colored : Bool) (stamp : Stamp) (event : Event) : String :=
  styled colored "2" stamp.time ++ " "
    ++ styled colored event.severity.color event.severity.word ++ " "
    ++ event.message ++ String.join (event.fields.map (fieldText colored stamp)) ++ "\n"

end Event

end Lexis
