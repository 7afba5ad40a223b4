import Mathlib.Data.Nat.Notation
import Lexis.Source.Movement

/-!
# Locations are counts

A cursor updates its location character by character. Here the location behind a text is defined
by counting bytes, line feeds and the characters after the last line feed, and the updates are
shown to agree with the counts. The counts are taken modulo the word size, as the updates are.
-/

namespace Lexis

namespace Text

/-- The number of bytes that a text takes in UTF-8. -/
def byteSize (text : List Char) : ℕ :=
  (String.ofList text).utf8ByteSize

/-- Texts in succession take as many bytes as both together. -/
@[simp] theorem byteSize_append (s t : List Char) :
    byteSize (s ++ t) = byteSize s + byteSize t := by
  simp [byteSize, String.ofList_append]

/-- A single character takes the bytes of its encoding. -/
@[simp] theorem byteSize_singleton (c : Char) : byteSize [c] = c.utf8Size := by
  simp [byteSize]

/-- A text takes the bytes of its first character and those of the others. -/
theorem byteSize_cons (c : Char) (text : List Char) :
    byteSize (c :: text) = c.utf8Size + byteSize text := by
  simpa using byteSize_append [c] text

/-- Every character takes at least one byte, so a text without bytes is empty. -/
@[simp] theorem byteSize_eq_zero {text : List Char} : byteSize text = 0 ↔ text = [] := by
  simp [byteSize]

/-- The bytes of the characters of a string are its bytes. -/
@[simp] theorem byteSize_toList (s : String) : byteSize s.toList = s.utf8ByteSize := by
  simp [byteSize]

/-- The characters of a text that follow its last line feed: all of them if there is none. -/
def lastLine (text : List Char) : List Char :=
  (text.reverse.takeWhile (· != '\n')).reverse

/-- The last line is part of the text. -/
theorem length_lastLine_le (text : List Char) : (lastLine text).length ≤ text.length := by
  have h := (List.takeWhile_sublist (l := text.reverse) (· != '\n')).length_le
  simpa [lastLine] using h

/-- Text without line feeds adds to the last line of what stands before it. -/
theorem lastLine_append {s t : List Char} (ht : '\n' ∉ t) :
    lastLine (s ++ t) = lastLine s ++ t := by
  have hall : ∀ c ∈ t.reverse, (c != '\n') = true := by
    intro c hc
    have hne : c ≠ '\n' := fun h => ht (by simpa [h] using hc)
    simpa using hne
  rw [lastLine, List.reverse_append, List.takeWhile_append_of_pos hall]
  simp [lastLine]

/-- A line feed begins a new last line. -/
@[simp] theorem lastLine_append_newline (s : List Char) : lastLine (s ++ ['\n']) = [] := by
  simp [lastLine]

end Text

namespace Location

/-- The location behind a text that is read from its start: the bytes of the text, one more than
its line feeds, and one more than the characters after the last of them. -/
def behind (text : List Char) : Location where
  offset := Text.byteSize text
  line := UInt32.ofNat (1 + text.count '\n')
  column := UInt32.ofNat (1 + (Text.lastLine text).length)

/-- The location behind no text is the start. -/
theorem behind_nil : behind [] = start :=
  rfl

/-- Reading one more character updates the counts. -/
theorem next_behind (text : List Char) (c : Char) :
    (behind text).next c = behind (text ++ [c]) := by
  by_cases hc : c = '\n'
  · subst hc
    simp [next, behind, ← Nat.add_assoc]
  · have hline : Text.lastLine (text ++ [c]) = Text.lastLine text ++ [c] :=
      Text.lastLine_append (by simpa using Ne.symm hc)
    simp [next, behind, hline, hc, ← Nat.add_assoc]

/-- Reading a text from the location behind another one leads behind both. -/
theorem after_behind (s t : List Char) : (behind s).after t = behind (s ++ t) := by
  induction t generalizing s with
  | nil => simp
  | cons c t ih =>
    rw [after_cons, next_behind, ih]
    simp

/-- A text moves a place by its bytes. -/
theorem offset_after (l : Location) (text : List Char) :
    (l.after text).offset = l.offset + Text.byteSize text := by
  induction text generalizing l with
  | nil => simp [Text.byteSize]
  | cons c text ih =>
    have hnext : (l.next c).offset = l.offset + c.utf8Size := by
      unfold next
      split <;> rfl
    rw [after_cons, ih, hnext, Text.byteSize_cons, Nat.add_assoc]

/-- The line of a location is one more than the line feeds before it, as long as the words can
hold the count. -/
theorem toNat_line_behind {text : List Char} (hlength : text.length < UInt32.size - 1) :
    (behind text).line.toNat = 1 + text.count '\n' := by
  have hcount : text.count '\n' ≤ text.length := List.count_le_length
  have hsmall : 1 + text.count '\n' < UInt32.size := by omega
  simpa [behind] using hsmall

/-- The column of a location is one more than the characters between the last line feed and it,
as long as the words can hold the count. -/
theorem toNat_column_behind {text : List Char} (hlength : text.length < UInt32.size - 1) :
    (behind text).column.toNat = 1 + (Text.lastLine text).length := by
  have hline := Text.length_lastLine_le text
  have hsmall : 1 + (Text.lastLine text).length < UInt32.size := by omega
  simpa [behind] using hsmall

end Location

end Lexis
