import Mathlib.Data.Prod.Lex
import Lexis.Proofs.Source.Positions

/-!
# Lines and columns keep the order of places

People are told the line and the column of a place in a source, and not its offset. Nothing is lost
by that: of two places in one source, the one with the smaller offset has the smaller line, or the
smaller column on the same line. So a line and a column belong to one place at most.
-/

namespace Lexis

namespace Location

/-- What people are told of a place. Pairs are compared by the line first. -/
def lineColumn (l : Location) : ℕ ×ₗ ℕ :=
  toLex (l.line.toNat, l.column.toNat)

/-- Reading on leads to a later line, or further on the same line. -/
theorem lineColumn_behind_lt {front more : List Char} (hmore : more ≠ [])
    (hlength : (front ++ more).length < UInt32.size - 1) :
    (behind front).lineColumn < (behind (front ++ more)).lineColumn := by
  have hfront : front.length < UInt32.size - 1 := by
    rw [List.length_append] at hlength
    omega
  simp only [lineColumn, Prod.Lex.toLex_lt_toLex, toNat_line_behind hfront,
    toNat_column_behind hfront, toNat_line_behind hlength, toNat_column_behind hlength,
    List.count_append]
  -- A line feed on the way raises the line. Without one the line stays, and the column counts on.
  by_cases hline : '\n' ∈ more
  · left
    have hpos := List.count_pos_iff.mpr hline
    omega
  · right
    have hpos := List.length_pos_iff.mpr hmore
    rw [List.count_eq_zero.mpr hline, Text.lastLine_append hline, List.length_append]
    omega

/-- The place lies between two characters of the source, or at one of its ends. -/
def IsPlaceIn (source : String) (l : Location) : Prop :=
  ∃ front, front <+: source.toList ∧ l = behind front

namespace IsPlaceIn

variable {source : String} {l m : Location}

/-- A place with a smaller offset has a smaller line or, on the same line, a smaller column. -/
theorem lineColumn_lt_of_offset_lt (hlength : source.length < UInt32.size - 1)
    (hl : l.IsPlaceIn source) (hm : m.IsPlaceIn source) (h : l.offset < m.offset) :
    l.lineColumn < m.lineColumn := by
  obtain ⟨front, ⟨rest, hfront⟩, rfl⟩ := hl
  obtain ⟨front', ⟨rest', hfront'⟩, rfl⟩ := hm
  obtain ⟨more, rfl⟩ := Text.isPrefix_of_byteSize_le (hfront.trans hfront'.symm) (Nat.le_of_lt h)
  refine lineColumn_behind_lt ?_ ?_
  · rintro rfl
    rw [List.append_nil] at h
    exact Nat.lt_irrefl _ h
  · refine Nat.lt_of_le_of_lt ?_ hlength
    rw [← String.length_toList, ← hfront']
    exact (List.prefix_append (front ++ more) rest').length_le

/-- Two places of a source with one offset are the same. -/
theorem eq_of_offset_eq (hl : l.IsPlaceIn source) (hm : m.IsPlaceIn source)
    (h : l.offset = m.offset) : l = m := by
  obtain ⟨front, ⟨rest, hfront⟩, rfl⟩ := hl
  obtain ⟨front', ⟨rest', hfront'⟩, rfl⟩ := hm
  rw [Text.eq_of_byteSize_eq (hfront.trans hfront'.symm) h]

/-- The order of the places of a source by their offsets is that of their lines and columns. -/
theorem lineColumn_lt_iff (hlength : source.length < UInt32.size - 1)
    (hl : l.IsPlaceIn source) (hm : m.IsPlaceIn source) :
    l.offset < m.offset ↔ l.lineColumn < m.lineColumn := by
  constructor
  · exact hl.lineColumn_lt_of_offset_lt hlength hm
  · intro h
    rcases Nat.lt_trichotomy l.offset m.offset with hlt | heq | hgt
    · exact hlt
    · rw [hl.eq_of_offset_eq hm heq] at h
      exact absurd h (lt_irrefl _)
    · exact absurd h (hm.lineColumn_lt_of_offset_lt hlength hl hgt).asymm

/-- A line and a column belong to one place of a source at most. -/
theorem eq_of_lineColumn_eq (hlength : source.length < UInt32.size - 1)
    (hl : l.IsPlaceIn source) (hm : m.IsPlaceIn source) (h : l.lineColumn = m.lineColumn) :
    l = m := by
  refine hl.eq_of_offset_eq hm (Nat.le_antisymm ?_ ?_)
  · exact Nat.le_of_not_lt fun hlt => ((hm.lineColumn_lt_iff hlength hl).mp hlt).ne h.symm
  · exact Nat.le_of_not_lt fun hlt => ((hl.lineColumn_lt_iff hlength hm).mp hlt).ne h

end IsPlaceIn

end Location

namespace Cursor

/-- A cursor stands at a place of its source. -/
theorem HasRead.isPlaceIn {source : String} {consumed : List Char} {c : Cursor}
    (h : c.HasRead source consumed) : c.location.IsPlaceIn source :=
  ⟨consumed, ⟨c.ahead, h.text.symm⟩, h.location_eq⟩

/-- After any sequence of operations a cursor stands at a place of its source. -/
theorem isPlaceIn_moved (source : String) (moves : List Move) :
    ((ofSource source).moved moves).location.IsPlaceIn source := by
  obtain ⟨consumed, h⟩ := (hasRead_ofSource source).moved moves
  exact h.isPlaceIn

end Cursor

end Lexis
