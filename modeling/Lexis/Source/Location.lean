/-!
# Locations in a source text

A location says how far a text has been read, both as a byte offset and, for people, as a line
and a column. Lines and columns are counted from one in 32-bit words, columns in characters.
-/

namespace Lexis

/-- A place between two characters of a source text. -/
structure Location where
  /-- The number of UTF-8 bytes before the place. -/
  offset : Nat
  /-- The line of the place, counted from one. -/
  line : UInt32
  /-- One more than the number of characters between the start of the line and the place. -/
  column : UInt32
deriving DecidableEq, Repr

namespace Location

/-- The place before the first character of a text. -/
def start : Location where
  offset := 0
  line := 1
  column := 1

/-- The place just after a character that is read at the given place. A line feed begins a new
line, and every other character takes one column. -/
def next (l : Location) (c : Char) : Location :=
  if c = '\n' then
    { offset := l.offset + c.utf8Size, line := l.line + 1, column := 1 }
  else
    { offset := l.offset + c.utf8Size, line := l.line, column := l.column + 1 }

/-- Locations are written as line and column with a colon between them. -/
instance : ToString Location where
  toString l := s!"{l.line}:{l.column}"

end Location

end Lexis
