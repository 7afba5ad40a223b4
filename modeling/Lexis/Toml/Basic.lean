/-!
# TOML values

A document is a table. Its values remember how they were written as far as the rules of the
language depend on that: whether a table may still be extended is decided by how it came about.
-/

namespace Lexis

namespace Toml

/-- How a table came about. -/
inductive Origin where
  /-- Written between braces. -/
  | inline
  /-- Opened by a header of its own. -/
  | header
  /-- Not opened itself, but a header has opened a table below it. -/
  | implied
  /-- Made by a key with dots. -/
  | dotted
deriving DecidableEq, Repr

end Toml

/-- A value of a document. -/
inductive Toml where
  /-- A text. -/
  | string (s : String)
  /-- An integer of 64 bits. -/
  | integer (n : Int)
  /-- A number that is not an integer, as it is written. -/
  | float (literal : String)
  /-- A truth value. -/
  | boolean (b : Bool)
  /-- A date, a time, or both, as it is written. -/
  | moment (literal : String)
  /-- The values between brackets. -/
  | array (items : List Toml)
  /-- A table. -/
  | table (origin : Toml.Origin) (entries : List (String × Toml))
  /-- The tables opened by headers in double brackets. The last of them can still grow. -/
  | tables (earlier : List (List (String × Toml))) (last : List (String × Toml))

namespace Toml

/-- The keys of a table and their values, in the order of their first mention. -/
abbrev Entries := List (String × Toml)

/-- The place of an entry: the keys of the tables around it, and its own key. -/
structure Path where
  /-- The keys that lead to the table of the entry. -/
  parents : List String
  /-- The key of the entry. -/
  key : String
deriving DecidableEq, Repr

/-- Why a text is not a document. -/
structure Fault where
  /-- What is wrong, in words. -/
  reason : String
  /-- The number of characters from where it was noticed to the end of the text. -/
  left : Nat
deriving DecidableEq, Repr

/-- A reader takes something from the front of a text and leaves the rest. -/
abbrev Reader (α : Type) := List Char → Except Fault (α × List Char)

/-- The fault that is noticed before the given rest of a text. -/
def fault {α : Type} (reason : String) (ahead : List Char) : Except Fault α :=
  .error { reason := reason, left := ahead.length }

/-- The wording of a fault in a text, with the number of its line. -/
def Fault.message (source : List Char) (fault : Fault) : String :=
  let line := 1 + (source.take (source.length - fault.left)).count '\n'
  s!"line {line}: {fault.reason}"

end Toml

end Lexis
