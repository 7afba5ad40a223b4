import Lexis.Log.Event
import Lexis.Number.Rounding
import Lexis.Source.Cursor
import Lexis.Text.LexicalClass

/-!
# The scanner

A scanner reads one token at a time. It skips white space and lets the next character decide: a
quotation mark opens a string, which ends at the next quotation mark and knows no escapes; a digit
begins a run of digits; anything else begins a bare run, which extends to the next white space and
is a name or a symbol by its first character.
-/

namespace Lexis

/-- A scanner at some place of a source text. -/
structure Scanner where
  /-- The reader of the source text. -/
  cursor : Cursor
  /-- The text gathered for the latest token. -/
  lexeme : String := ""
  /-- The place where the latest token starts. -/
  tokenStart : Location := .start
  /-- Set once an error was given out as an item; no items follow it. -/
  failed : Bool := false

/-- The answer to a request to a scanner, the events that answering it caused, and the scanner
afterwards. -/
structure Reply (α : Type) where
  /-- The answer itself. -/
  answer : α
  /-- The events, oldest first. -/
  events : List Event
  /-- The scanner as the request leaves it. -/
  scanner : Scanner

namespace Scanner

/-- The scanner before the first character of a text. -/
def ofSource (source : String) : Scanner where
  cursor := .ofSource source

/-- The place that the scanner has reached. -/
def location (s : Scanner) : Location :=
  s.cursor.location

/-- Moves to the next character that is not white space; the next token starts there. -/
def toTokenStart (s : Scanner) : Scanner :=
  let cursor := s.cursor.skipWhiteSpace
  { s with cursor := cursor, tokenStart := cursor.location }

/-- Forgets the text gathered for the previous token. -/
def clear (s : Scanner) : Scanner :=
  { s with lexeme := "" }

/-- Gathers the longest run of characters that satisfy `p`. -/
def gather (p : Char → Bool) (s : Scanner) : Scanner :=
  let (lexeme, cursor) := s.cursor.eatWhile p s.lexeme
  { s with cursor := cursor, lexeme := lexeme }

/-- Reads the quotation mark that closes a string. -/
def closeString (s : Scanner) : Except LexError Token × Scanner :=
  match s.cursor.read with
  | .error error => (.error error, s)
  | .ok (_, cursor) => (.ok (.string s.lexeme), { s with cursor := cursor })

/-- Reads the rest of a string that was opened at `start`, up to and with its closing mark. -/
def readStringBody (start : Location) (s : Scanner) : Except LexError Token × Scanner :=
  match s.cursor.peek with
  | .error _ => (.error (.unterminatedString start), s)
  | .ok ahead =>
    if ahead = Text.quoteMark then s.closeString
    else
      match _h : s.cursor.read with
      | .error error => (.error error, s)
      | .ok (char, cursor) =>
        readStringBody start { s with cursor := cursor, lexeme := s.lexeme.push char }
termination_by s.cursor.ahead.length
decreasing_by exact Cursor.length_ahead_read_lt _h

/-- Reads a string at its opening quotation mark. Without a closing one the string extends to the
end of the text, and that is an error at the opening mark. -/
def readString (s : Scanner) : Except LexError Token × Scanner :=
  let s := s.clear
  let start := s.location
  match s.cursor.read with
  | .error _ => (.error (.unterminatedString start), s)
  | .ok (char, cursor) =>
    let s := { s with cursor := cursor }
    if char ≠ Text.quoteMark then (.error (.unterminatedString start), s)
    else s.readStringBody start

/-- Reads a number: the longest run of digits, whatever follows it. -/
def readNumber (s : Scanner) : Except LexError Token × Scanner :=
  let s := s.clear.gather Text.isDigit
  match Binary64.ofDigits? s.lexeme with
  | some value => (.ok (.number value), s)
  | none => (.error (.invalidToken s.lexeme s.tokenStart), s)

/-- The first character of a bare run decides what the run is. A name keeps the whole run, a symbol
only the first character; a run that begins with neither is an error. -/
def classifyRun (first : Char) (run : String) (start : Location) : Except LexError Token :=
  if Text.isNameStart first then .ok (.name run)
  else if Text.isSymbolStart first then .ok (.symbol first)
  else .error (.invalidToken run start)

/-- Reads a bare run, which extends to the next white space. -/
def readBare (s : Scanner) : Except LexError Token × Scanner :=
  let s := s.clear.gather Text.isBare
  match s.lexeme.toList with
  | [] => (.error (.prematureEnd s.location), s)
  | first :: _ => (classifyRun first s.lexeme s.tokenStart, s)

/-- Reads the token that begins with the character `first`, which lies just ahead. -/
def readToken (first : Char) (s : Scanner) : Except LexError Token × Scanner :=
  if first = Text.quoteMark then s.readString
  else if Text.isDigit first then s.readNumber
  else s.readBare

/-- The event that tells of an attempt to read a token at `start`. -/
def readingEvent (start : Location) : Except LexError Token → Event
  | .ok token => .tokenScanned token.kind start
  | .error error => .scanFailed error

/-- Reads the next token; at the end of the text there is none. After an error the scanner stands
behind the text that could not be read, and may be asked again. -/
def nextToken (s : Scanner) : Reply (Except LexError (Option Token)) :=
  let s := s.toTokenStart
  match s.cursor.peek with
  | .error _ => { answer := .ok none, events := [], scanner := s }
  | .ok first =>
    let (result, after) := s.readToken first
    { answer := result.map some
      events := [readingEvent s.tokenStart result]
      scanner := after }

/-- Reads the next token together with the place where it starts. -/
def nextLocated (s : Scanner) : Reply (Except LexError (Option (Location × Token))) :=
  let r := s.nextToken
  { answer := r.answer.map fun token? => token?.map fun token => (r.scanner.tokenStart, token)
    events := r.events
    scanner := r.scanner }

/-- The next item: a token, or an error if reading one fails. There is none at the end of the
text, and none once an error has been an item. -/
def next (s : Scanner) : Reply (Option (Except LexError Token)) :=
  if s.failed then { answer := none, events := [], scanner := s }
  else
    let r := s.nextToken
    match r.answer with
    | .ok none => { answer := none, events := r.events, scanner := r.scanner }
    | .ok (some token) => { answer := some (.ok token), events := r.events, scanner := r.scanner }
    | .error error =>
      { answer := some (.error error)
        events := r.events
        scanner := { r.scanner with failed := true } }

end Scanner

end Lexis
