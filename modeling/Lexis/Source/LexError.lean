import Lexis.Source.Location

/-!
# Lexical errors

The reasons why a source text cannot be cut into tokens, each with the place it concerns.
-/

namespace Lexis

/-- Why reading a source text failed. -/
inductive LexError where
  /-- A string was opened at `location` and never closed. -/
  | unterminatedString (location : Location)
  /-- The run of characters `text` at `location` begins like no token. -/
  | invalidToken (text : String) (location : Location)
  /-- A character was asked for at `location`, where the text ends. -/
  | prematureEnd (location : Location)
deriving DecidableEq, Repr

namespace LexError

/-- The place that an error concerns. -/
def location : LexError → Location
  | unterminatedString location => location
  | invalidToken _ location => location
  | prematureEnd location => location

/-- The wording of an error. -/
def message : LexError → String
  | unterminatedString location => s!"unterminated string literal starting at {location}"
  | invalidToken text location => s!"invalid token '{text}' at {location}"
  | prematureEnd location => s!"unexpected end of input at {location}"

instance : ToString LexError where
  toString := message

end LexError

end Lexis
