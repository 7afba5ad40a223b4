import Lexis.Toml.Basic

/-!
# Layout

Blanks, line ends and comments. A line ends with a line feed, which a carriage return may precede.
A comment extends from a number sign to the end of its line.
-/

namespace Lexis.Toml

/-- Blanks separate what stands on one line. -/
def isBlank (c : Char) : Bool :=
  c = ' ' || c = '\t'

/-- Says whether a character may stand in comments and in texts. Control characters may not. -/
def isPlain (c : Char) : Bool :=
  c = '\t' || (0x20 ≤ c.toNat && c.toNat != 0x7f)

/-- The text after the blanks that it begins with. -/
def skipBlanks (s : List Char) : List Char :=
  s.dropWhile isBlank

/-- The text after the line end that it begins with. -/
def afterLineEnd? : List Char → Option (List Char)
  | '\n' :: rest => some rest
  | '\r' :: '\n' :: rest => some rest
  | _ => none

/-- The text after the blanks and line ends that it begins with. -/
def skipBreaks : List Char → List Char
  | ' ' :: rest => skipBreaks rest
  | '\t' :: rest => skipBreaks rest
  | '\n' :: rest => skipBreaks rest
  | '\r' :: '\n' :: rest => skipBreaks rest
  | s => s

/-- The text after the comment that it begins with. -/
def skipComment : List Char → List Char
  | '#' :: rest => rest.dropWhile isPlain
  | s => s

/-- The text after a whole run of blanks, line ends and comments, which `inComment` says it
begins within. -/
def skipLayoutFrom (inComment : Bool) : List Char → List Char
  | [] => []
  | c :: rest =>
    if inComment && isPlain c then skipLayoutFrom true rest
    else if isBlank c || c = '\n' then skipLayoutFrom false rest
    else if c = '\r' && rest.head? = some '\n' then skipLayoutFrom false rest
    else if c = '#' then skipLayoutFrom true rest
    else c :: rest

/-- The text after the blanks, line ends and comments that it begins with. -/
def skipLayout (s : List Char) : List Char :=
  skipLayoutFrom false s

/-- The text after the end of the current line, where only a comment may stand before. -/
def endLine (s : List Char) : Except Fault (List Char) :=
  let rest := skipComment (skipBlanks s)
  if rest.isEmpty then .ok []
  else
    match afterLineEnd? rest with
    | some next => .ok next
    | none => fault "expected the end of the line" rest

end Lexis.Toml
