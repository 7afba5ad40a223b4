import Lexis.Proofs.Source.Counting

/-!
# Places of a text within a larger one

A text that stands behind another one has places of its own, counted from its start, and each of
them is a place of both texts together. The offset and the line are shifted by those of the text in
front; the column is shifted only on the first line.
-/

namespace Lexis

namespace Text

/-- A text with a line feed leaves nothing of the line in front of it. -/
theorem lastLine_append_of_mem {s t : List Char} (ht : '\n' ∈ t) :
    lastLine (s ++ t) = lastLine t := by
  obtain ⟨line, before, hreverse, hline⟩ := List.eq_append_cons_of_mem (List.mem_reverse.mpr ht)
  have hall : ∀ c ∈ line, (c != '\n') = true := by
    intro c hc
    have hne : c ≠ '\n' := fun h => hline (h ▸ hc)
    simpa using hne
  simp only [lastLine, List.reverse_append, hreverse, List.append_assoc]
  rw [List.takeWhile_append_of_pos hall, List.takeWhile_append_of_pos hall]
  simp

end Text

namespace Location

/-- The place `l` of a text that begins at `origin`, counted from where `origin` is counted from. -/
def translate (origin l : Location) : Location where
  offset := l.offset + origin.offset
  line := .ofNat (l.line.toNat + origin.line.toNat - 1)
  column := if l.line = 1 then .ofNat (l.column.toNat + origin.column.toNat - 1) else l.column

/-- The words hold the line and the column of a translated place. -/
structure Fits (origin l : Location) : Prop where
  /-- The line does not overflow. -/
  line : l.line.toNat + origin.line.toNat - 1 < UInt32.size
  /-- The column does not overflow, whichever line it is on. -/
  column : l.column.toNat + origin.column.toNat - 1 < UInt32.size

/-- The words hold the places of a text, translated to the place behind another one, if they hold
the number of characters of both. -/
theorem fits_behind {front text : List Char}
    (hlength : front.length + text.length < UInt32.size - 1) :
    Fits (behind front) (behind text) := by
  have hfront : front.length < UInt32.size - 1 := by omega
  have htext : text.length < UInt32.size - 1 := by omega
  have hcount : front.count '\n' ≤ front.length := List.count_le_length
  have hcount' : text.count '\n' ≤ text.length := List.count_le_length
  have hlast := Text.length_lastLine_le front
  have hlast' := Text.length_lastLine_le text
  constructor
  · rw [toNat_line_behind hfront, toNat_line_behind htext]
    omega
  · rw [toNat_column_behind hfront, toNat_column_behind htext]
    omega

/-- A place behind two texts is the place behind the second one, translated by the first. -/
theorem behind_append {front text : List Char}
    (hlength : front.length + text.length < UInt32.size - 1) :
    behind (front ++ text) = translate (behind front) (behind text) := by
  have hfront : front.length < UInt32.size - 1 := by omega
  have htext : text.length < UInt32.size - 1 := by omega
  have hfirst : (behind text).line = 1 ↔ '\n' ∉ text := by
    rw [← UInt32.toNat_inj, toNat_line_behind htext, ← List.count_eq_zero]
    simp
  have hoffset : (behind (front ++ text)).offset =
      (behind text).offset + (behind front).offset := by
    simp only [behind, Text.byteSize_append]
    omega
  have hline : (behind (front ++ text)).line =
      .ofNat ((behind text).line.toNat + (behind front).line.toNat - 1) := by
    rw [toNat_line_behind hfront, toNat_line_behind htext]
    simp only [behind, List.count_append]
    congr 1
    omega
  have hcolumn : (behind (front ++ text)).column =
      if (behind text).line = 1 then
        .ofNat ((behind text).column.toNat + (behind front).column.toNat - 1)
      else (behind text).column := by
    by_cases hmem : '\n' ∈ text
    · rw [if_neg (by simpa [hfirst] using hmem)]
      simp only [behind, Text.lastLine_append_of_mem hmem]
    · have hwhole : Text.lastLine text = text := by
        simpa [Text.lastLine] using Text.lastLine_append (s := []) hmem
      rw [if_pos (hfirst.mpr hmem), toNat_column_behind hfront, toNat_column_behind htext, hwhole]
      simp only [behind, Text.lastLine_append hmem, List.length_append]
      congr 1
      omega
  rw [translate, ← hoffset, ← hline, ← hcolumn]

end Location

end Lexis
