import Lexis.Json.Basic
import Lexis.Number.Numeral

/-!
# Writing JSON

One writer serves two layouts: a compact one without any blanks, and a pretty one with one item a
line, indented by two blanks a level. In texts only the quotation mark, the backslash and the
control characters below the blank are escaped.
-/

namespace Lexis.Json

/-- The hexadecimal digit for a number below sixteen, in lower case. -/
def hexDigit (n : Nat) : Char :=
  if n < 10 then Char.ofNat ('0'.toNat + n) else Char.ofNat ('a'.toNat + (n - 10))

/-- How a character stands inside a JSON text. -/
def escape (c : Char) : List Char :=
  match c with
  | '"' => ['\\', '"']
  | '\\' => ['\\', '\\']
  | '\x08' => ['\\', 'b']
  | '\x0c' => ['\\', 'f']
  | '\n' => ['\\', 'n']
  | '\r' => ['\\', 'r']
  | '\t' => ['\\', 't']
  | c =>
    if c.toNat < 0x20 then
      ['\\', 'u', '0', '0', hexDigit (c.toNat / 16), hexDigit (c.toNat % 16)]
    else [c]

/-- A text between quotation marks, with what must be escaped. -/
def quoted (s : String) : List Char :=
  '"' :: s.toList.flatMap escape ++ ['"']

/-- Doubles are written without an exponent when their leading digit weighs from `10 ^ -5` to
`10 ^ 15`, and always as something that a reader takes for a double. -/
def numeral : NumeralStyle where
  tie := .toEven
  positional e := decide (-5 ≤ e) && decide (e ≤ 15)
  pointZero := true

/-- The white space that a layout adds. -/
structure Layout where
  /-- What is put before an item or a closing bracket at the given level. -/
  lineBreak : Nat → List Char
  /-- What is put between the name of a member and its value. -/
  colon : List Char

/-- The layout without any white space. -/
def Layout.compact : Layout where
  lineBreak _ := []
  colon := [':']

/-- The layout with one item a line. -/
def Layout.pretty : Layout where
  lineBreak level := '\n' :: List.replicate (2 * level) ' '
  colon := [':', ' ']

/-- The word for a truth value. -/
def booleanWord (b : Bool) : String :=
  if b then "true" else "false"

mutual

/-- The text of a value that stands at the given level. -/
def write (layout : Layout) (level : Nat) : Json → List Char
  | text s => quoted s
  | natural n => (toString n).toList
  | double x => (numeral.write x).toList
  | boolean b => (booleanWord b).toList
  | array [] => ['[', ']']
  | array (first :: rest) =>
    '[' :: layout.lineBreak (level + 1) ++ write layout (level + 1) first
      ++ (writeItems layout (level + 1) rest ++ layout.lineBreak level ++ [']'])
  | object [] => ['\x7b', '\x7d']
  | object ((name, value) :: rest) =>
    '\x7b' :: layout.lineBreak (level + 1) ++ quoted name ++ layout.colon
      ++ write layout (level + 1) value
      ++ (writeMembers layout (level + 1) rest ++ layout.lineBreak level ++ ['\x7d'])

/-- The text of the items of a list after the first. -/
def writeItems (layout : Layout) (level : Nat) : List Json → List Char
  | [] => []
  | item :: rest =>
    ',' :: layout.lineBreak level ++ write layout level item ++ writeItems layout level rest

/-- The text of the members of an object after the first. -/
def writeMembers (layout : Layout) (level : Nat) : List (String × Json) → List Char
  | [] => []
  | (name, value) :: rest =>
    ',' :: layout.lineBreak level ++ quoted name ++ layout.colon ++ write layout level value
      ++ writeMembers layout level rest

end

/-- The text of a value on one line. -/
def compact (value : Json) : String :=
  String.ofList (write .compact 0 value)

/-- The text of a value with one item a line. -/
def pretty (value : Json) : String :=
  String.ofList (write .pretty 0 value)

end Lexis.Json
