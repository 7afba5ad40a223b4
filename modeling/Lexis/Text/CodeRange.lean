/-!
# Sets of characters given by ranges of code points

A Unicode property is kept as an ascending list of closed ranges of code points. `RangeTree`
holds such a list as a balanced search tree, so that a lookup compares a character with a
dozen ranges and not with hundreds.
-/

namespace Lexis.Text

/-- A closed range of code points. -/
structure CodeRange where
  /-- The least code point of the range. -/
  first : Nat
  /-- The greatest code point of the range. -/
  last : Nat
deriving DecidableEq, Repr

/-- A search tree of ranges: all ranges on the left lie below the root, all on the right above. -/
inductive RangeTree where
  /-- The tree without ranges. -/
  | leaf
  /-- A root range between two subtrees. -/
  | node (left : RangeTree) (root : CodeRange) (right : RangeTree)

namespace RangeTree

/-- Says whether one of the ranges of a search tree holds the code point `n`. -/
def contains (n : Nat) : RangeTree → Bool
  | leaf => false
  | node left root right =>
    if n < root.first then left.contains n
    else if n ≤ root.last then true
    else right.contains n

/-- The ranges of a tree from left to right. -/
def toList : RangeTree → List CodeRange
  | leaf => []
  | node left root right => left.toList ++ root :: right.toList

/-- Moves the first ranges of a list into a tree of at most the given depth, and returns the
tree with the ranges that are left. -/
def fill : Nat → List CodeRange → RangeTree × List CodeRange
  | 0, ranges => (leaf, ranges)
  | depth + 1, ranges =>
    match fill depth ranges with
    | (left, []) => (left, [])
    | (left, root :: above) =>
      let (right, rest) := fill depth above
      (node left root right, rest)

/-- The tree that holds the given ranges in their order, at most 4095 of them. -/
def ofList (ranges : List CodeRange) : RangeTree :=
  (fill 12 ranges).1

end RangeTree

end Lexis.Text
