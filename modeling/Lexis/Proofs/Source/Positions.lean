import Lexis.Proofs.Source.Counting

/-!
# Where a cursor can stand

A cursor that is moved by any sequence of its operations has read a prefix of the source, and its
location counts that prefix. In particular it always stands between two characters, and its
location depends only on how far it has come.
-/

namespace Lexis

namespace Text

/-- Of two ways to cut a text, the one whose first part takes no more bytes has the shorter first
part. -/
theorem isPrefix_of_byteSize_le {s s' t t' : List Char} (htext : s ++ t = s' ++ t')
    (hsize : byteSize s ≤ byteSize s') : s <+: s' := by
  rcases List.append_eq_append_iff.mp htext with ⟨more, hmore, _⟩ | ⟨more, hmore, _⟩
  · exact ⟨more, hmore.symm⟩
  · have hnone : more = [] := by
      rw [hmore, byteSize_append] at hsize
      exact byteSize_eq_zero.mp (by omega)
    simp [hmore, hnone]

/-- Two prefixes of a text that take equally many bytes are equal. -/
theorem eq_of_byteSize_eq {s s' t t' : List Char} (htext : s ++ t = s' ++ t')
    (hsize : byteSize s = byteSize s') : s = s' := by
  have hle := isPrefix_of_byteSize_le htext (Nat.le_of_eq hsize)
  have hge := isPrefix_of_byteSize_le htext.symm (Nat.le_of_eq hsize.symm)
  exact hle.eq_of_length (Nat.le_antisymm hle.length_le hge.length_le)

/-- `text` takes the bytes of the source from `first` up to `last`. -/
def IsSlice (source : String) (first last : ℕ) (text : List Char) : Prop :=
  ∃ front back, source.toList = front ++ text ++ back ∧ byteSize front = first ∧
    byteSize (front ++ text) = last

/-- A text behind another one is the slice between the offsets of its ends. -/
theorem isSlice_behind {source : String} {front text back : List Char}
    (h : source.toList = front ++ text ++ back) :
    IsSlice source (Location.behind front).offset (Location.behind (front ++ text)).offset text :=
  ⟨front, back, h, rfl, rfl⟩

/-- The bytes between two offsets hold one text. -/
theorem IsSlice.unique {source : String} {first last : ℕ} {s t : List Char}
    (hs : IsSlice source first last s) (ht : IsSlice source first last t) : s = t := by
  obtain ⟨front, back, hsource, hfront, hend⟩ := hs
  obtain ⟨front', back', hsource', hfront', hend'⟩ := ht
  have htext := hsource.symm.trans hsource'
  have hboth : front ++ s = front' ++ t := eq_of_byteSize_eq htext (hend.trans hend'.symm)
  rw [List.append_assoc, List.append_assoc] at htext
  obtain rfl : front = front' := eq_of_byteSize_eq htext (hfront.trans hfront'.symm)
  exact List.append_cancel_left hboth

end Text

namespace Cursor

/-- The cursor reads `source`, and the text before it is `consumed`. -/
structure HasRead (source : String) (consumed : List Char) (c : Cursor) : Prop where
  /-- The text that is read. -/
  source_eq : c.source = source
  /-- What has been read and what lies ahead make up the source. -/
  text : source.toList = consumed ++ c.ahead
  /-- The location counts what has been read. -/
  location_eq : c.location = .behind consumed

/-- A new cursor has read nothing. -/
theorem hasRead_ofSource (source : String) : (ofSource source).HasRead source [] :=
  ⟨rfl, rfl, Location.behind_nil.symm⟩

namespace HasRead

variable {source : String} {consumed : List Char} {c : Cursor}

/-- Moving over characters adds them to what has been read. -/
theorem advance (h : c.HasRead source consumed) (n : ℕ) :
    (c.advance n).HasRead source (consumed ++ c.ahead.take n) where
  source_eq := h.source_eq
  text := by simp [h.text]
  location_eq := by rw [location_advance, h.location_eq, Location.after_behind]

/-- The offset is the size of what has been read. -/
theorem offset_eq (h : c.HasRead source consumed) :
    c.location.offset = Text.byteSize consumed := by
  rw [h.location_eq]
  rfl

/-- The source takes the bytes before the cursor and those ahead of it. -/
theorem utf8ByteSize_eq (h : c.HasRead source consumed) :
    source.utf8ByteSize = c.location.offset + Text.byteSize c.ahead := by
  rw [h.offset_eq, ← Text.byteSize_append, ← h.text, Text.byteSize_toList]

/-- What remains to be read are the bytes ahead. -/
theorem remaining_eq (h : c.HasRead source consumed) :
    c.remaining = Text.byteSize c.ahead := by
  rw [remaining, h.source_eq, h.utf8ByteSize_eq]
  omega

/-- The whole text has been read exactly when nothing lies ahead. -/
theorem atEnd_iff (h : c.HasRead source consumed) : c.atEnd = true ↔ c.ahead = [] := by
  simp [atEnd, h.remaining_eq]

/-- Nothing lies ahead exactly when everything has been read. -/
theorem ahead_eq_nil_iff (h : c.HasRead source consumed) :
    c.ahead = [] ↔ consumed = source.toList := by
  simp [h.text]

/-- What has been read is no longer than the source. -/
theorem length_le (h : c.HasRead source consumed) : consumed.length ≤ source.length := by
  rw [← String.length_toList, h.text, List.length_append]
  omega

/-- The offset is a position of the source in the sense of its encoding, and it splits the source
into what has been read and what lies ahead. -/
theorem exists_splits (h : c.HasRead source consumed) :
    ∃ p : source.Pos, p.offset.byteIdx = c.location.offset ∧
      p.Splits (String.ofList consumed) (String.ofList c.ahead) := by
  have hsource : source = String.ofList consumed ++ String.ofList c.ahead := by
    rw [← String.ofList_append, ← h.text, String.ofList_toList]
  have hvalid : (String.ofList consumed).rawEndPos.IsValid source :=
    String.Pos.Raw.isValid_iff_exists_append.mpr ⟨_, _, hsource, rfl⟩
  exact ⟨⟨_, hvalid⟩, h.offset_eq.symm, hsource, rfl⟩

/-- Two cursors over one source that have come equally far have read the same and stand at the
same location. -/
theorem eq_of_offset_eq {consumed' : List Char} {c' : Cursor} (h : c.HasRead source consumed)
    (h' : c'.HasRead source consumed') (hoffset : c'.location.offset = c.location.offset) :
    consumed' = consumed ∧ c'.location = c.location := by
  have hconsumed : consumed' = consumed :=
    Text.eq_of_byteSize_eq (by rw [← h.text, ← h'.text])
      (by rw [← h.offset_eq, ← h'.offset_eq, hoffset])
  exact ⟨hconsumed, by rw [h.location_eq, h'.location_eq, hconsumed]⟩

end HasRead

/-- The cursor stands between two characters of `source`. Its line and column may be anything. -/
structure StandsIn (source : String) (c : Cursor) : Prop where
  /-- The text that is read. -/
  source_eq : c.source = source
  /-- What lies ahead is what the source holds behind the offset. -/
  ahead : ∃ front, source.toList = front ++ c.ahead ∧ Text.byteSize front = c.location.offset

/-- A cursor that has read a part of the source stands behind it. -/
theorem HasRead.standsIn {source : String} {consumed : List Char} {c : Cursor}
    (h : c.HasRead source consumed) : c.StandsIn source :=
  ⟨h.source_eq, consumed, h.text, h.offset_eq.symm⟩

/-- A cursor between two characters of a source that moves on stands between two characters
again. -/
theorem StandsIn.advance {source : String} {c : Cursor} (h : c.StandsIn source) (n : ℕ) :
    (c.advance n).StandsIn source := by
  obtain ⟨front, htext, hsize⟩ := h.ahead
  refine ⟨h.source_eq, front ++ c.ahead.take n, by simp [htext], ?_⟩
  rw [location_advance, Location.offset_after, Text.byteSize_append, hsize]

/-- Two cursors that stand at one location of a source are equal. -/
theorem StandsIn.eq_of_location_eq {source : String} {c c' : Cursor} (h : c.StandsIn source)
    (h' : c'.StandsIn source) (hlocation : c.location = c'.location) : c = c' := by
  obtain ⟨front, htext, hsize⟩ := h.ahead
  obtain ⟨front', htext', hsize'⟩ := h'.ahead
  have hboth := htext.symm.trans htext'
  obtain rfl : front = front' :=
    Text.eq_of_byteSize_eq hboth (by rw [hsize, hsize', hlocation])
  have hahead := List.append_cancel_left hboth
  have hsource := h.source_eq.trans h'.source_eq.symm
  cases c
  cases c'
  simp_all

/-- Asking for the next character fails exactly at the end of the text, and names that place. -/
theorem HasRead.peek_eq_error_iff {source : String} {consumed : List Char} {c : Cursor}
    (h : c.HasRead source consumed) (e : LexError) :
    c.peek = .error e ↔ consumed = source.toList ∧ e = .prematureEnd (.behind source.toList) := by
  rw [← h.ahead_eq_nil_iff]
  cases hahead : c.ahead with
  | nil =>
    have hend : c.location = .behind source.toList := by
      rw [h.location_eq, h.ahead_eq_nil_iff.mp hahead]
    simp [peek_of_nil hahead, hend, eq_comm]
  | cons next rest => simp [peek_of_cons hahead]

/-- Reading fails exactly where asking for the next character fails, with the same error. -/
theorem read_eq_error_iff (c : Cursor) (e : LexError) : c.read = .error e ↔ c.peek = .error e := by
  cases hpeek : c.peek <;> simp [read, hpeek]

/-- An operation on a cursor. -/
inductive Move where
  /-- Asks for the next character. -/
  | peek
  /-- Reads the next character. -/
  | read
  /-- Reads on as long as the characters satisfy `p`. -/
  | eatWhile (p : Char → Bool) (buffer : String)
  /-- Moves over white space. -/
  | skipWhiteSpace

/-- The cursor after an operation. One that fails leaves the cursor as it was. -/
def Move.apply (c : Cursor) : Move → Cursor
  | .peek => c
  | .read =>
    match c.read with
    | .error _ => c
    | .ok (_, after) => after
  | .eatWhile p buffer => (c.eatWhile p buffer).2
  | .skipWhiteSpace => c.skipWhiteSpace

/-- The cursor after a sequence of operations. -/
def moved (c : Cursor) (moves : List Move) : Cursor :=
  moves.foldl Move.apply c

/-- Every operation moves over some number of characters. -/
theorem Move.exists_advance (c : Cursor) (m : Move) : ∃ n, m.apply c = c.advance n := by
  cases m with
  | peek => exact ⟨0, by simp [apply]⟩
  | read =>
    cases hahead : c.ahead with
    | nil => exact ⟨0, by simp [apply, read_of_nil hahead]⟩
    | cons next rest => exact ⟨1, by simp [apply, read_of_cons hahead]⟩
  | eatWhile p buffer => exact ⟨_, by rw [apply, eatWhile_eq]⟩
  | skipWhiteSpace => exact ⟨_, skipWhiteSpace_eq c⟩

/-- One operation leaves a cursor that has read a prefix of the source, no shorter than before. -/
theorem HasRead.apply {source : String} {consumed : List Char} {c : Cursor}
    (h : c.HasRead source consumed) (m : Move) :
    ∃ more, (m.apply c).HasRead source (consumed ++ more) := by
  obtain ⟨n, hadvance⟩ := m.exists_advance c
  exact ⟨_, hadvance ▸ h.advance n⟩

/-- Any sequence of operations leaves a cursor that has read a prefix of the source, no shorter than
before. -/
theorem HasRead.moved {source : String} {consumed : List Char} {c : Cursor}
    (h : c.HasRead source consumed) (moves : List Move) :
    ∃ more, (c.moved moves).HasRead source (consumed ++ more) := by
  induction moves generalizing c consumed with
  | nil => exact ⟨[], by simpa [Cursor.moved] using h⟩
  | cons m moves ih =>
    obtain ⟨first, hfirst⟩ := h.apply m
    obtain ⟨later, hlater⟩ := ih hfirst
    exact ⟨first ++ later, by simpa [Cursor.moved] using hlater⟩

/-- The observable state of a cursor is what can be counted in the text that it has read. -/
structure Counts (source : String) (consumed : List Char) (c : Cursor) : Prop where
  /-- Whole characters from the start of the source have been read. -/
  isPrefix : consumed <+: source.toList
  /-- The offset counts the bytes that have been read. -/
  offset : c.location.offset = Text.byteSize consumed
  /-- The line counts the line feeds that have been read, from one. -/
  line : c.location.line.toNat = 1 + consumed.count '\n'
  /-- The column counts the characters after the last line feed that has been read, from one. -/
  column : c.location.column.toNat = 1 + (Text.lastLine consumed).length
  /-- The bytes before and after the cursor are those of the source. -/
  remaining : c.location.offset + c.remaining = source.utf8ByteSize
  /-- The end is reported exactly when the whole source has been read. -/
  atEnd : c.atEnd = true ↔ consumed = source.toList

/-- The state of a cursor is what can be counted, wherever the words for lines and columns can hold
the counts. -/
theorem HasRead.counts {source : String} {consumed : List Char} {c : Cursor}
    (h : c.HasRead source consumed) (hlength : source.length < UInt32.size - 1) :
    c.Counts source consumed where
  isPrefix := ⟨c.ahead, h.text.symm⟩
  offset := h.offset_eq
  line := by
    rw [h.location_eq]
    exact Location.toNat_line_behind (Nat.lt_of_le_of_lt h.length_le hlength)
  column := by
    rw [h.location_eq]
    exact Location.toNat_column_behind (Nat.lt_of_le_of_lt h.length_le hlength)
  remaining := by rw [h.remaining_eq, h.utf8ByteSize_eq]
  atEnd := h.atEnd_iff.trans h.ahead_eq_nil_iff

/-- Wherever operations lead a cursor, its location counts a prefix of the source and so lies
between two characters of it. No operation moves it backwards, equal offsets mean equal locations
whatever led there, and peeking and reading fail exactly at the end, where they change nothing. -/
theorem counts_of_moved (source : String) (hlength : source.length < UInt32.size - 1)
    (moves : List Move) :
    ∃ consumed,
      ((ofSource source).moved moves).Counts source consumed ∧
      (∃ p : source.Pos, p.offset.byteIdx = ((ofSource source).moved moves).location.offset ∧
        p.Splits (String.ofList consumed)
          (String.ofList ((ofSource source).moved moves).ahead)) ∧
      (∀ m : Move, ((ofSource source).moved moves).location.offset ≤
        (m.apply ((ofSource source).moved moves)).location.offset) ∧
      (∀ others, ((ofSource source).moved others).location.offset =
          ((ofSource source).moved moves).location.offset →
        ((ofSource source).moved others).location =
          ((ofSource source).moved moves).location) ∧
      (∀ e, ((ofSource source).moved moves).peek = .error e ↔
        consumed = source.toList ∧ e = .prematureEnd (.behind source.toList)) ∧
      (∀ e, ((ofSource source).moved moves).read = .error e ↔
        consumed = source.toList ∧ e = .prematureEnd (.behind source.toList)) ∧
      (∀ e, ((ofSource source).moved moves).read = .error e →
        Move.read.apply ((ofSource source).moved moves) = (ofSource source).moved moves) := by
  obtain ⟨consumed, h⟩ := (hasRead_ofSource source).moved moves
  rw [List.nil_append] at h
  refine ⟨consumed, h.counts hlength, h.exists_splits, ?_, ?_, h.peek_eq_error_iff, ?_, ?_⟩
  · intro m
    obtain ⟨more, hmore⟩ := h.apply m
    rw [h.offset_eq, hmore.offset_eq, Text.byteSize_append]
    omega
  · intro others hoffset
    obtain ⟨consumed', h'⟩ := (hasRead_ofSource source).moved others
    exact (h.eq_of_offset_eq h' hoffset).2
  · intro e
    rw [read_eq_error_iff, h.peek_eq_error_iff]
  · intro e hread
    simp only [Move.apply, hread]

/-- A carriage return is a character of its line, and a letter of two bytes takes one column. -/
theorem counts_of_moved_carriageReturn :
    "a\r\nλ".length < UInt32.size - 1 ∧
      ∃ consumed,
        ((ofSource "a\r\nλ").moved [.read, .skipWhiteSpace, .read]).Counts "a\r\nλ" consumed ∧
        ((ofSource "a\r\nλ").moved [.read, .skipWhiteSpace, .read]).location = ⟨5, 2, 2⟩ := by
  obtain ⟨consumed, hcounts, _⟩ :=
    counts_of_moved "a\r\nλ" (by decide) [.read, .skipWhiteSpace, .read]
  exact ⟨by decide, consumed, hcounts, by decide +kernel⟩

end Cursor

end Lexis
