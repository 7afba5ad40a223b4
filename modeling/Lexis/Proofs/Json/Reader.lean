import Mathlib.Algebra.Field.Rat
import Lexis.Json.Basic
import Lexis.Toml.Number

/-!
# Reading JSON

A reader for documents of any kind, not only for those that are written here. It takes nothing that
is not JSON: no comma behind the last item, no zeros in front of a number, no control characters in
a text, and a code above the basic plane only as a pair. A number is read as what it stands for, and
its sign is kept apart, so that zero has one too.
-/

namespace Lexis.Json

/-- What a document says. -/
inductive Value where
  /-- Nothing. -/
  | null
  /-- A truth value. -/
  | boolean (b : Bool)
  /-- A number, given by its sign and its magnitude. -/
  | number (negative : Bool) (magnitude : ℚ)
  /-- A text. -/
  | text (s : String)
  /-- A list of values. -/
  | array (items : List Value)
  /-- A list of named values. -/
  | object (members : List (String × Value))

/-- A reader takes something from the front of a text and leaves the rest. -/
abbrev Reader (α : Type) := List Char → Option (α × List Char)

/-- Says whether a character may stand between the parts of a document. -/
def isBlank (c : Char) : Bool :=
  c == ' ' || c == '\t' || c == '\n' || c == '\r'

/-- The text after the blanks in front of it. -/
def skipBlanks (s : List Char) : List Char :=
  s.dropWhile isBlank

/-- Takes a unit of sixteen bits, given by four hexadecimal digits. -/
def unit? : Reader ℕ := fun s =>
  let digits := s.take 4
  if digits.length = 4 ∧ digits.all (Toml.isDigitOf 16) then
    some (Toml.ofDigits 16 digits, s.drop 4)
  else none

/-- Takes a character that is given by its units: one, or a high and a low surrogate. -/
def coded? : Reader Char := fun s => do
  let (unit, rest) ← unit? s
  if unit.isValidChar then some (Char.ofNat unit, rest)
  else
    match rest with
    | '\\' :: 'u' :: rest =>
      let (low, rest) ← unit? rest
      if unit < 0xDC00 ∧ 0xDC00 ≤ low ∧ low < 0xE000 then
        some (Char.ofNat (0x10000 + 0x400 * (unit - 0xD800) + (low - 0xDC00)), rest)
      else none
    | _ => none

/-- Takes the character that an escape stands for. The backslash is taken already. -/
def escaped? : Reader Char
  | '"' :: rest => some ('"', rest)
  | '\\' :: rest => some ('\\', rest)
  | '/' :: rest => some ('/', rest)
  | 'b' :: rest => some ('\x08', rest)
  | 'f' :: rest => some ('\x0c', rest)
  | 'n' :: rest => some ('\n', rest)
  | 'r' :: rest => some ('\r', rest)
  | 't' :: rest => some ('\t', rest)
  | 'u' :: rest => coded? rest
  | _ => none

/-- Takes a character of a text. -/
def character? : Reader Char
  | '\\' :: rest => escaped? rest
  | c :: rest => if c = '"' ∨ c.toNat < 0x20 then none else some (c, rest)
  | [] => none

/-- Takes the characters of a text and its closing mark. Every round takes a character, so `fuel`
need not exceed the length of what is left. -/
def characters? : ℕ → Reader (List Char)
  | 0, _ => none
  | fuel + 1, s =>
    match s with
    | '"' :: rest => some ([], rest)
    | s => do
      let (c, rest) ← character? s
      let (later, rest) ← characters? fuel rest
      return (c :: later, rest)

/-- Takes a text between quotation marks. -/
def text? : Reader String
  | '"' :: rest => do
    let (chars, rest) ← characters? rest.length rest
    return (String.ofList chars, rest)
  | _ => none

/-- Takes a run of digits. There must be one at least. -/
def digits? : Reader (List Char) := fun s =>
  let digits := s.takeWhile Char.isDigit
  if digits.isEmpty then none else some (digits, s.dropWhile Char.isDigit)

/-- Takes the digits before the point. The first of several is not zero. -/
def whole? : Reader (List Char) := fun s => do
  let (digits, rest) ← digits? s
  if digits.head? = some '0' ∧ digits.length ≠ 1 then none else some (digits, rest)

/-- Takes the point and the digits behind it, if there is a point. -/
def fraction? : Reader (List Char)
  | '.' :: rest => digits? rest
  | s => some ([], s)

/-- Takes the exponent behind its mark. -/
def signedDigits? : Reader ℤ := fun s => do
  let (negative, s) := Toml.splitSign s
  let (digits, rest) ← digits? s
  let n : ℤ := Nat.ofDigitChars 10 digits 0
  return (if negative then -n else n, rest)

/-- Takes the exponent, if there is one. -/
def power? : Reader ℤ
  | 'e' :: rest => signedDigits? rest
  | 'E' :: rest => signedDigits? rest
  | s => some (0, s)

/-- Takes a number without a sign. -/
def magnitude? : Reader ℚ := fun s => do
  let (whole, rest) ← whole? s
  let (fraction, rest) ← fraction? rest
  let (power, rest) ← power? rest
  let digits : ℚ := Nat.ofDigitChars 10 (whole ++ fraction) 0
  return (digits * 10 ^ (power - fraction.length), rest)

/-- Takes a number. -/
def number? : Reader Value
  | '-' :: rest => do
    let (magnitude, rest) ← magnitude? rest
    return (.number true magnitude, rest)
  | s => do
    let (magnitude, rest) ← magnitude? s
    return (.number false magnitude, rest)

/-- Takes the items behind the first one, each with a comma before it, and the closing bracket.
Every round takes a comma, so `fuel` need not exceed the length of what is left. -/
def more? {α : Type} (item : Reader α) (closing : Char) : ℕ → Reader (List α)
  | 0, _ => none
  | fuel + 1, s =>
    match skipBlanks s with
    | [] => none
    | c :: rest =>
      if c = closing then some ([], rest)
      else if c = ',' then do
        let (first, rest) ← item rest
        let (later, rest) ← more? item closing fuel rest
        return (first :: later, rest)
      else none

/-- Takes the items up to the closing bracket, and the bracket. -/
def list? {α : Type} (item : Reader α) (closing : Char) : Reader (List α) := fun s =>
  match skipBlanks s with
  | [] => none
  | c :: rest =>
    if c = closing then some ([], rest)
    else do
      let (first, rest) ← item s
      let (later, rest) ← more? item closing rest.length rest
      return (first :: later, rest)

/-- Takes a name, a colon and a value. -/
def member? (value : Reader Value) : Reader (String × Value) := fun s => do
  let (name, rest) ← text? (skipBlanks s)
  match skipBlanks rest with
  | ':' :: rest =>
    let (value, rest) ← value rest
    return ((name, value), rest)
  | _ => none

/-- Takes a value and the blanks before it. No more than `depth` brackets may be open at once. -/
def value? : ℕ → Reader Value
  | 0, _ => none
  | depth + 1, s =>
    match skipBlanks s with
    | 'n' :: 'u' :: 'l' :: 'l' :: rest => some (.null, rest)
    | 't' :: 'r' :: 'u' :: 'e' :: rest => some (.boolean true, rest)
    | 'f' :: 'a' :: 'l' :: 's' :: 'e' :: rest => some (.boolean false, rest)
    | '"' :: rest => do
      let (s, rest) ← text? ('"' :: rest)
      return (.text s, rest)
    | '[' :: rest => do
      let (items, rest) ← list? (value? depth) ']' rest
      return (.array items, rest)
    | '\x7b' :: rest => do
      let (members, rest) ← list? (member? (value? depth)) '\x7d' rest
      return (.object members, rest)
    | s => number? s

/-- The value that a document says, if the text is a document. No text has more brackets than
characters. -/
def read? (s : List Char) : Option Value :=
  match value? s.length s with
  | some (value, rest) => if rest.all isBlank then some value else none
  | none => none

/-- In a document blanks may stand between the parts, and a character above the basic plane may be a
pair of units. -/
example : read? "\t[ \"a\\ud83d\\ude00\" ,true,\n[ ] ]\r\n".toList =
    some (.array [.text "a😀", .boolean true, .array []]) := by
  rfl

/-- Needless zeros, missing digits, stray commas, open brackets and unknown escapes are no part of a
document. -/
example : ["", "01", "1.", ".5", "+1", "1e", "1 2", "[1,]", "[1 2]", "[1", "nul",
    "\x7b\"a\":1,\x7d", "\x7ba:1\x7d", "\"a", "\"\t\"", "\"\\x\"", "\"\\ud83d\""].all
      (fun s => (read? s.toList).isNone) = true := by
  decide +kernel

end Lexis.Json
