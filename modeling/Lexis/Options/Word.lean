/-!
# Words of a command line

The shape of a word tells what it can be: two hyphens alone end the options, a word that begins
with two hyphens is a long name, one that begins with a single hyphen is a cluster of letters, and
everything else is plain. A hyphen alone is plain too.
-/

namespace Lexis.Options

/-- A word of a command line by its shape. -/
inductive Word where
  /-- Two hyphens alone. -/
  | separator
  /-- A long name, and the value after an equals sign if there is one. -/
  | long (name : List Char) (value? : Option (List Char))
  /-- The characters after a single hyphen. -/
  | cluster (first : Char) (rest : List Char)
  /-- Any other word. -/
  | plain
deriving DecidableEq, Repr

/-- The part before the first equals sign and the part after it. -/
def splitValue (s : List Char) : List Char × Option (List Char) :=
  match s.dropWhile (· != '=') with
  | [] => (s, none)
  | _ :: value => (s.takeWhile (· != '='), some value)

/-- The shape of a word. -/
def Word.ofChars : List Char → Word
  | ['-', '-'] => .separator
  | '-' :: '-' :: rest =>
    let (name, value?) := splitValue rest
    .long name value?
  | '-' :: first :: rest => .cluster first rest
  | _ => .plain

end Lexis.Options
