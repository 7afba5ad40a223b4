import Lexis.Text.Alphabetic
import Lexis.Text.DecimalDigit
import Lexis.Text.WhiteSpace

/-!
# The classes of characters that the scanner tells apart

The first character of a token decides what the token is: the quotation mark opens a string, an
ASCII digit a number, an alphabetic character a name. What is left, apart from the full stop and
the decimal digits of other scripts, begins a symbol.
-/

namespace Lexis.Text

/-- The character that opens and closes a string. -/
def quoteMark : Char := '"'

/-- A number begins with a digit, and only the ten ASCII digits count. -/
def isDigit (c : Char) : Bool :=
  c.isDigit

/-- A bare run extends to the next white space, whatever it holds. -/
def isBare (c : Char) : Bool :=
  !isWhiteSpace c

/-- A name begins with an alphabetic character. -/
def isNameStart (c : Char) : Bool :=
  isAlphabetic c

/-- A symbol begins with a character that is neither alphabetic nor a decimal digit of any script
nor the full stop. White space and the quotation mark belong to this class too; the scanner
deals with both before it asks. -/
def isSymbolStart (c : Char) : Bool :=
  !isAlphabetic c && !isDecimalDigit c && c != '.'

end Lexis.Text
