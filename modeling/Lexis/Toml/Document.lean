import Lexis.Toml.Value

/-!
# Documents

A document is read line by line. A header decides which table the entries after it belong to;
entries before the first header belong to the document itself.
-/

namespace Lexis.Toml

/-- A document up to some line. -/
structure Draft where
  /-- The document so far. -/
  root : Entries := []
  /-- The keys of the table that the latest header has opened. -/
  opened : List String := []

/-- Ends the line of a statement that leads to the given document, if it is possible. -/
def endStatement (draft : Draft) (root? : Option Entries) (ahead : List Char) : Reader Draft :=
  fun s =>
    match root? with
    | none => fault "the key is taken" ahead
    | some root => (endLine s).map fun next => ({ draft with root := root }, next)

/-- Reads a header after its opening brackets, and says what it opens. -/
def header (draft : Draft) (close : List Char) (enter : Path → Entries → Option Entries) :
    Reader Draft := fun s => do
  let (place, rest) ← path s
  if close.isPrefixOf rest then
    let opened := place.parents ++ [place.key]
    endStatement { draft with opened := opened } (enter place draft.root) s
      (rest.drop close.length)
  else fault "expected the end of a header" rest

/-- Reads an entry of the table that is open. -/
def entry (draft : Draft) : Reader Draft := fun s => do
  let (place, rest) ← path s
  match rest with
  | '=' :: rest =>
    let (v, rest) ← value (skipBlanks rest)
    endStatement draft (addBelow draft.opened place v draft.root) s rest
  | rest => fault "expected an equals sign" rest

/-- Reads a statement, or a line without one. -/
def statement (draft : Draft) : Reader Draft := fun s =>
  match skipBlanks s with
  | '[' :: '[' :: rest => header draft [']', ']'] openNext rest
  | '[' :: rest => header draft [']'] openTable rest
  | '#' :: _ | '\n' :: _ | '\r' :: _ | [] => (endLine s).map fun next => (draft, next)
  | s => entry draft s

/-- Reads statements to the end of the text. Every statement takes at least one character, so
`fuel` need not exceed the length of the text. -/
def statements : Nat → Draft → List Char → Except Fault Draft
  | _, draft, [] => .ok draft
  | 0, _, s => fault "expected the end of the document" s
  | fuel + 1, draft, s => do
    let (draft, rest) ← statement draft s
    statements fuel draft rest

/-- The text without the mark that some programs put before everything else. -/
def skipMark : List Char → List Char
  | '\ufeff' :: rest => rest
  | s => s

/-- Reads a document. -/
def document (source : String) : Except Fault Entries :=
  let s := skipMark source.toList
  (statements s.length {} s).map Draft.root

end Lexis.Toml
