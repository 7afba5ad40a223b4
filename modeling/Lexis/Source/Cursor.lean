import Lexis.Source.LexError
import Lexis.Text.WhiteSpace

/-!
# Cursors

A cursor reads a source text from left to right. It keeps the characters that lie ahead and the
location it has reached, and moves past one character at a time.
-/

namespace Lexis

/-- A reader of a source text, at some place of it. -/
structure Cursor where
  /-- The whole text. -/
  source : String
  /-- The characters that have not been read yet. -/
  ahead : List Char
  /-- The place that the cursor has reached. -/
  location : Location

namespace Cursor

/-- The cursor before the first character of a text. -/
def ofSource (source : String) : Cursor where
  source := source
  ahead := source.toList
  location := .start

/-- Moves past the character `next`, which must be the one that lies just ahead. -/
def bump (next : Char) (c : Cursor) : Cursor :=
  { c with ahead := c.ahead.tail, location := c.location.next next }

/-- The next character. -/
def peek (c : Cursor) : Except LexError Char :=
  match c.ahead with
  | [] => .error (.prematureEnd c.location)
  | next :: _ => .ok next

/-- A cursor that has a next character has fewer characters ahead once it has moved past it. -/
theorem length_ahead_bump_lt {c : Cursor} {next : Char} (hpeek : c.peek = .ok next) :
    (c.bump next).ahead.length < c.ahead.length := by
  cases hahead : c.ahead with
  | nil => simp [peek, hahead] at hpeek
  | cons first rest => simp [bump, hahead]

/-- The next character, and the cursor after it. -/
def read (c : Cursor) : Except LexError (Char × Cursor) :=
  match c.peek with
  | .error error => .error error
  | .ok next => .ok (next, c.bump next)

/-- Reading a character leaves fewer characters ahead. -/
theorem length_ahead_read_lt {c after : Cursor} {next : Char} (hread : c.read = .ok (next, after)) :
    after.ahead.length < c.ahead.length := by
  unfold read at hread
  cases hpeek : c.peek with
  | error error => simp [hpeek] at hread
  | ok first =>
    have hlt := length_ahead_bump_lt hpeek
    simp only [hpeek, Except.ok.injEq, Prod.mk.injEq] at hread
    rwa [← hread.2]

/-- Reads on as long as the characters satisfy `p`, and adds what was read to `buffer`. -/
def eatWhile (p : Char → Bool) (buffer : String) (c : Cursor) : String × Cursor :=
  match _h : c.peek with
  | .error _ => (buffer, c)
  | .ok next => if p next then (c.bump next).eatWhile p (buffer.push next) else (buffer, c)
termination_by c.ahead.length
decreasing_by exact length_ahead_bump_lt _h

/-- Moves to the next character that is not white space, or to the end. -/
def skipWhiteSpace (c : Cursor) : Cursor :=
  match _h : c.peek with
  | .error _ => c
  | .ok next => if Text.isWhiteSpace next then (c.bump next).skipWhiteSpace else c
termination_by c.ahead.length
decreasing_by exact length_ahead_bump_lt _h

/-- The number of bytes that have not been read yet. -/
def remaining (c : Cursor) : Nat :=
  c.source.utf8ByteSize - c.location.offset

/-- Says whether the whole text has been read. -/
def atEnd (c : Cursor) : Bool :=
  c.remaining == 0

end Cursor

end Lexis
