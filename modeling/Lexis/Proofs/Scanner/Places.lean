import Lexis.Proofs.Scanner.Scans
import Lexis.Proofs.Source.Positions

/-!
# Where a scanner stands

Requests move a scanner as operations move its cursor: it always stands behind a prefix of the
source. What a request takes is the next stretch of the source, white space and then a reading.
-/

namespace Lexis

namespace Scanner

/-- The scanner reads `source` and stands behind `front`. -/
abbrev HasRead (source : String) (front : List Char) (s : Scanner) : Prop :=
  s.cursor.HasRead source front

namespace HasRead

variable {source : String} {front : List Char} {s : Scanner}

/-- The location behind the white space ahead of a scanner counts what has been read and the white
space. -/
theorem after_eq (h : s.HasRead source front) (gap : List Char) :
    s.location.after gap = .behind (front ++ gap) := by
  rw [location, h.location_eq, Location.after_behind]

/-- A scanner that has read a text behind white space stands behind both. -/
theorem landed (h : s.HasRead source front) {gap text rest : List Char}
    {result : Except LexError Token} (hfinds : s.Finds gap text rest result)
    (gathered : List Char) :
    (s.landed gap text gathered).HasRead source (front ++ gap ++ text) := by
  have hadvance := h.advance (gap.length + text.length)
  have htake : s.cursor.ahead.take (gap.length + text.length) = gap ++ text := by
    rw [hfinds.ahead, ← List.append_assoc]
    exact List.take_left' (by simp)
  rwa [htake, ← List.append_assoc] at hadvance

/-- The white space and the text that a scanner finds lie in the source, behind what has been
read. -/
theorem source_eq_of_finds (h : s.HasRead source front) {gap text rest : List Char}
    {result : Except LexError Token} (hfinds : s.Finds gap text rest result) :
    source.toList = front ++ gap ++ text ++ rest := by
  rw [h.text, hfinds.ahead]
  simp

/-- A request that finds something to read leads behind it. -/
theorem nextToken_of_finds (h : s.HasRead source front) {gap text rest : List Char}
    {result : Except LexError Token} (hfinds : s.Finds gap text rest result) :
    s.nextToken.scanner.HasRead source (front ++ gap ++ text) := by
  obtain ⟨gathered, hnext⟩ := hfinds.nextToken_eq
  rw [hnext]
  exact h.landed hfinds gathered

/-- A request for a token reads on. -/
theorem nextToken (h : s.HasRead source front) :
    ∃ more, s.nextToken.scanner.HasRead source (front ++ more) := by
  rcases s.isSpace_or_finds with hspace | ⟨gap, text, rest, result, hfinds⟩
  · rw [nextToken_of_isSpace hspace]
    exact ⟨_, h.advance s.cursor.ahead.length⟩
  · exact ⟨gap ++ text, by simpa using h.nextToken_of_finds hfinds⟩

/-- A scan reads on. -/
theorem scans {s' : Scanner} {tokens : List Token} (h : s.HasRead source front)
    (hscans : Scans s tokens s') : ∃ more, s'.HasRead source (front ++ more) := by
  induction hscans generalizing front with
  | nil s => exact ⟨[], by simpa using h⟩
  | cons hfirst hlater ih =>
    obtain ⟨more, hmore⟩ := h.nextToken
    obtain ⟨later, hlast⟩ := ih hmore
    exact ⟨more ++ later, by simpa using hlast⟩

end HasRead

end Scanner

end Lexis
