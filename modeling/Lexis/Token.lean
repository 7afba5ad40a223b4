import Lexis.Number.Numeral

/-!
# Tokens

A source text consists of strings, names, symbols and numbers. Every token carries one payload
and has a text form that people read.
-/

namespace Lexis

/-- The four kinds of token. -/
inductive TokenKind where
  /-- A text between quotation marks. -/
  | string
  /-- A word that begins with an alphabetic character. -/
  | name
  /-- A single character of punctuation. -/
  | symbol
  /-- A number. -/
  | number
deriving DecidableEq, Repr

/-- The word for a kind of token. -/
def TokenKind.word : TokenKind → String
  | string => "string"
  | name => "name"
  | symbol => "symbol"
  | number => "number"

instance : ToString TokenKind where
  toString := TokenKind.word

/-- A token with its payload. -/
inductive Token where
  /-- A string, without its quotation marks. -/
  | string (text : String)
  /-- A name as it was written. -/
  | name (text : String)
  /-- The first character of a run of punctuation. -/
  | symbol (char : Char)
  /-- The value of a run of digits. -/
  | number (value : Binary64)
deriving DecidableEq, Repr

namespace Token

/-- The kind of a token. -/
def kind : Token → TokenKind
  | string _ => .string
  | name _ => .name
  | symbol _ => .symbol
  | number _ => .number

/-- Numbers are shown in full, without an exponent, and integers without a decimal point. -/
def numeral : NumeralStyle where
  tie := .up
  positional _ := true
  pointZero := false

/-- The text form of a token. A string stands between quotation marks, and nothing in it is
escaped. -/
def display : Token → String
  | string text => "\"" ++ text ++ "\""
  | name text => text
  | symbol char => String.singleton char
  | number value => numeral.write value

instance : ToString Token where
  toString := display

/-- Says whether two tokens mean the same: texts and characters are compared as they are, doubles
by the numbers that they stand for. -/
def same : Token → Token → Bool
  | string s, string t => s == t
  | name s, name t => s == t
  | symbol c, symbol d => c == d
  | number x, number y => x.numEq y
  | _, _ => false

end Token

end Lexis
