import Lexis.Number.Binary64

/-!
# JSON values

The values that results are reported in. Counts and doubles are kept apart, since they are written
differently: a count has no decimal point.
-/

namespace Lexis

/-- A JSON value. The members of an object keep their order. -/
inductive Json where
  /-- A text. -/
  | text (s : String)
  /-- A count. -/
  | natural (n : Nat)
  /-- A double. -/
  | double (x : Binary64)
  /-- A truth value. -/
  | boolean (b : Bool)
  /-- A list of values. -/
  | array (items : List Json)
  /-- A list of named values. -/
  | object (members : List (String × Json))

end Lexis
