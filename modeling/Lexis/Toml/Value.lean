import Lexis.Toml.Moment
import Lexis.Toml.Number
import Lexis.Toml.Tables
import Lexis.Toml.Text

/-!
# Keys and values

A value is told by its first character: a text, an array, a table in braces, or a word, which is
everything else. Keys are words of their own, or texts on one line, and dots join them to paths.
-/

namespace Lexis.Toml

/-- The greatest number of keys that dots may join, and of arrays and tables in braces that may be
nested. -/
def maxDepth : Nat := 79

/-- Says whether a character may stand in a key without marks around it. -/
def isKeyChar (c : Char) : Bool :=
  c.isAlphanum || c = '-' || c = '_'

/-- Reads one key. -/
def key : Reader String
  | '"' :: rest => lineText quote [] rest
  | '\'' :: rest => lineText apostrophe [] rest
  | s =>
    let word := s.takeWhile isKeyChar
    if word.isEmpty then fault "expected a key" s
    else .ok (String.ofList word, s.dropWhile isKeyChar)

/-- Reads keys that dots join, up to the given number of them, and the blanks around them. -/
def pathUpTo : Nat → Reader Path
  | 0, s => fault "too many keys" s
  | bound + 1, s => do
    let (first, rest) ← key (skipBlanks s)
    match skipBlanks rest with
    | '.' :: rest =>
      let (path, rest) ← pathUpTo bound rest
      return ({ path with parents := first :: path.parents }, rest)
    | rest => return ({ parents := [], key := first }, rest)

/-- Reads a path. -/
def path : Reader Path :=
  pathUpTo maxDepth

/-- Says whether a character may stand in a word. -/
def isWordChar (c : Char) : Bool :=
  c.isAlphanum || c = '_' || c = '+' || c = '-' || c = '.' || c = ':'

/-- The value that a word stands for. -/
def ofWord? (word : List Char) : Option Toml :=
  let literal := String.ofList word
  if literal = "true" then some (.boolean true)
  else if literal = "false" then some (.boolean false)
  else if isMoment word then some (.moment literal)
  else if isFloat word then some (.float literal)
  else (integer? word).map .integer

/-- Reads a value that is a word. A blank may stand between a date and a time, so a date takes in
what follows if that looks like a time. -/
def wordValue : Reader Toml := fun s =>
  let word := s.takeWhile isWordChar
  let rest := s.dropWhile isWordChar
  let timeFollows : Bool :=
    match rest with
    | ' ' :: c :: _ => isDate word && c.isDigit
    | _ => false
  if timeFollows then
    let time := rest.tail.takeWhile isWordChar
    if isOffsetTime time then
      .ok (.moment (String.ofList (word ++ ' ' :: time)), rest.tail.dropWhile isWordChar)
    else fault "expected a time" rest.tail
  else
    match ofWord? word with
    | some value => .ok (value, rest)
    | none => fault "expected a value" s

/-- Reads the values of an array up to its closing bracket. There is a comma between two values,
and there may be one after the last. Every round takes a comma, so `fuel` need not exceed the
length of the text. -/
def arrayItems (item : Reader Toml) : Nat → List Toml → Reader Toml
  | 0, _, s => fault "an array is not closed" s
  | fuel + 1, taken, s =>
    match skipLayout s with
    | ']' :: rest => .ok (.array taken.reverse, rest)
    | s => do
      let (value, rest) ← item s
      match skipLayout rest with
      | ',' :: rest => arrayItems item fuel (value :: taken) rest
      | ']' :: rest => .ok (.array (value :: taken).reverse, rest)
      | rest => fault "expected a comma or a closing bracket" rest

/-- Reads the next entry of a table in braces and what follows it, up to the closing brace. Every
round takes a comma, so `fuel` need not exceed the length of the text. -/
def inlineEntries (item : Reader Toml) : Nat → Entries → Reader Toml
  | 0, _, s => fault "a table is not closed" s
  | fuel + 1, entries, s => do
    let (place, rest) ← path s
    match rest with
    | '=' :: rest =>
      let (value, rest) ← item (skipBlanks rest)
      match addEntry place value .inline entries with
      | none => fault "the key is taken" s
      | some entries =>
        match skipBlanks rest with
        | ',' :: rest => inlineEntries item fuel entries rest
        | '\x7d' :: rest => .ok (.table .inline entries, rest)
        | rest => fault "expected a comma or a closing brace" rest
    | rest => fault "expected an equals sign" rest

/-- Reads a table in braces after its opening brace. -/
def inlineTable (item : Reader Toml) : Reader Toml := fun s =>
  match skipBlanks s with
  | '\x7d' :: rest => .ok (.table .inline [], rest)
  | s => inlineEntries item s.length [] s

/-- Reads a value in which `depth` arrays and tables in braces may be nested. -/
def valueUpTo : Nat → Reader Toml
  | depth, s =>
    match s with
    | '"' :: rest => (text quote rest).map fun (t, rest) => (.string t, rest)
    | '\'' :: rest => (text apostrophe rest).map fun (t, rest) => (.string t, rest)
    | '[' :: rest =>
      match depth with
      | 0 => fault "too many levels" s
      | below + 1 => arrayItems (valueUpTo below) rest.length [] rest
    | '\x7b' :: rest =>
      match depth with
      | 0 => fault "too many levels" s
      | below + 1 => inlineTable (valueUpTo below) rest
    | s => wordValue s

/-- Reads a value. -/
def value : Reader Toml :=
  valueUpTo maxDepth

end Lexis.Toml
