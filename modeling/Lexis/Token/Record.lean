import Lexis.Json.Writer
import Lexis.Source.Location
import Lexis.Token

/-!
# Token records

A record is the JSON form of a token with its place: the kind, the payload, the line and the
column, in this order.
-/

namespace Lexis.Token

/-- The JSON form of the payload of a token. JSON has no numbers that are not finite; they are
given by their text. -/
def payload : Token → Json
  | string text => .text text
  | name text => .text text
  | symbol char => .text (String.singleton char)
  | number value => if value.isFinite then .double value else .text (numeral.write value)

/-- The JSON form of a token that starts at the given place. -/
def record (start : Location) (token : Token) : Json :=
  .object
    [("kind", .text token.kind.word),
      ("value", token.payload),
      ("line", .natural start.line.toNat),
      ("column", .natural start.column.toNat)]

end Lexis.Token
