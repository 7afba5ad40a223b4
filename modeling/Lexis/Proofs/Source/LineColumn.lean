import Lexis.Source.Movement

/-!
# Lines and columns alone

People are told the line and the column of a place, not its offset. Where a line of a text is
changed character by character, the offsets behind it may change, and the lines and columns do not.
-/

namespace Lexis.Location

/-- The place as it is told to people: its offset is left out. -/
def withoutOffset (l : Location) : Location :=
  { l with offset := 0 }

/-- Two characters move a line and a column alike if both are line feeds or neither is. -/
theorem withoutOffset_next {l l' : Location} (h : l.withoutOffset = l'.withoutOffset) {c c' : Char}
    (hc : c = '\n' ↔ c' = '\n') : (l.next c).withoutOffset = (l'.next c').withoutOffset := by
  simp only [withoutOffset, Location.mk.injEq, true_and] at h
  simp only [withoutOffset, next, hc, h]
  split <;> rfl

/-- A text moves equal lines and columns alike. -/
theorem withoutOffset_after {l l' : Location} (h : l.withoutOffset = l'.withoutOffset)
    (text : List Char) : (l.after text).withoutOffset = (l'.after text).withoutOffset := by
  induction text generalizing l l' with
  | nil => exact h
  | cons c text ih => exact ih (withoutOffset_next h Iff.rfl)

/-- Spaces move a line and a column as the characters of one line do for which they stand. -/
theorem withoutOffset_after_blank {l l' : Location} (h : l.withoutOffset = l'.withoutOffset)
    {text : List Char} (htext : '\n' ∉ text) :
    (l.after (text.map fun _ => ' ')).withoutOffset = (l'.after text).withoutOffset := by
  induction text generalizing l l' with
  | nil => exact h
  | cons c text ih =>
    have hc : c ≠ '\n' := fun hc => htext (by simp [hc])
    have hlater : '\n' ∉ text := fun hmem => htext (by simp [hmem])
    exact ih (withoutOffset_next h (by simp [hc])) hlater

end Lexis.Location
