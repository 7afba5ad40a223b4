import Lexis.Text.CodeRange

/-!
# White space

The Unicode property White_Space: 25 characters in ten ranges. Besides the ASCII blanks it
holds, for instance, the no-break space and the ideographic space.
-/

namespace Lexis.Text

/-- The code points with the property White_Space. -/
def whiteSpaceRanges : List CodeRange :=
  [⟨0x9, 0xD⟩, ⟨0x20, 0x20⟩, ⟨0x85, 0x85⟩, ⟨0xA0, 0xA0⟩, ⟨0x1680, 0x1680⟩, ⟨0x2000, 0x200A⟩,
    ⟨0x2028, 0x2029⟩, ⟨0x202F, 0x202F⟩, ⟨0x205F, 0x205F⟩, ⟨0x3000, 0x3000⟩]

/-- The ranges of `whiteSpaceRanges` as a search tree. -/
def whiteSpaceTree : RangeTree :=
  RangeTree.ofList whiteSpaceRanges

/-- Says whether a character is white space. -/
def isWhiteSpace (c : Char) : Bool :=
  whiteSpaceTree.contains c.toNat

end Lexis.Text
