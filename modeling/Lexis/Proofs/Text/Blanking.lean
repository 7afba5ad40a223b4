import Lexis.Proofs.Source.Counting

/-!
# Spaces in place of characters

Parts of a text are blanked out by their offsets: each character at one of these becomes a space.
The characters keep their number and their order, not their bytes.
-/

namespace Lexis.Text

/-- The text, which begins at the given offset, with a space for every character at an offset that
satisfies `p`. -/
def blankWhere (p : ℕ → Bool) : ℕ → List Char → List Char
  | _, [] => []
  | offset, c :: text =>
    (if p offset then ' ' else c) :: blankWhere p (offset + c.utf8Size) text

/-- Texts in succession are blanked out one behind the other. -/
theorem blankWhere_append (p : ℕ → Bool) (offset : ℕ) (s t : List Char) :
    blankWhere p offset (s ++ t) =
      blankWhere p offset s ++ blankWhere p (offset + byteSize s) t := by
  induction s generalizing offset with
  | nil => simp [blankWhere, byteSize]
  | cons c s ih => simp [blankWhere, ih, byteSize_cons, Nat.add_assoc]

/-- Where the test has one value for all offsets of a text, all or none of it is blanked out. -/
theorem blankWhere_eq_map {p : ℕ → Bool} {offset : ℕ} {text : List Char} {b : Bool}
    (h : ∀ n, offset ≤ n → n < offset + byteSize text → p n = b) :
    blankWhere p offset text = text.map fun c => if b then ' ' else c := by
  induction text generalizing offset with
  | nil => rfl
  | cons c text ih =>
    have hsize := byteSize_cons c text
    have hpos := c.utf8Size_pos
    have hlater : ∀ n, offset + c.utf8Size ≤ n →
        n < offset + c.utf8Size + byteSize text → p n = b := by
      intro n hle hlt
      apply h <;> omega
    rw [blankWhere, h offset (Nat.le_refl _) (by omega), ih hlater, List.map_cons]

/-- Only the test at the offsets of the text matters. -/
theorem blankWhere_congr {p q : ℕ → Bool} {offset : ℕ} (h : ∀ n, offset ≤ n → p n = q n)
    (text : List Char) : blankWhere p offset text = blankWhere q offset text := by
  induction text generalizing offset with
  | nil => rfl
  | cons c text ih =>
    have hlater : ∀ n, offset + c.utf8Size ≤ n → p n = q n := by
      intro n hle
      apply h
      omega
    rw [blankWhere, blankWhere, h offset (Nat.le_refl _), ih hlater]

end Lexis.Text
