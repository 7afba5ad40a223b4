import Lexis.Proofs.Scanner.Requests

/-!
# Spans tile the source

A scanner that is asked again and again, also after errors, covers the source with spans: each
request passes over white space and takes the span behind it, the spans match what is answered,
and the last request finds nothing but white space. The offsets that the scanner reports are the
borders of these stretches.
-/

namespace Lexis

/-- What one request covers: white space, the span behind it, and what is reported for the span. -/
structure Tile where
  /-- The white space that is passed over. -/
  gap : List Char
  /-- The text that is taken. -/
  span : List Char
  /-- The token or the error. -/
  result : Except LexError Token

namespace Tile

/-- All that one request covers. -/
def text (t : Tile) : List Char :=
  t.gap ++ t.span

/-- A request for a located token to the scanner `s` covers the tile. -/
structure CoveredBy (source : String) (t : Tile) (s : Scanner) : Prop where
  /-- The gap extends from where the scanner stood to the start of the token. -/
  gap : Text.IsSlice source s.location.offset s.nextLocated.scanner.tokenStart.offset t.gap
  /-- The gap is white space. -/
  space : Text.IsSpace t.gap
  /-- The span extends from the start of the token to where the scanner stands afterwards. -/
  span : Text.IsSlice source s.nextLocated.scanner.tokenStart.offset
    s.nextLocated.scanner.location.offset t.span
  /-- The span does not begin with white space. -/
  first : ∃ c run, t.span = c :: run ∧ Text.isWhiteSpace c = false
  /-- The request never goes backwards. -/
  start_ge : s.location.offset ≤ s.nextLocated.scanner.tokenStart.offset
  /-- The request takes at least one character. -/
  start_lt : s.nextLocated.scanner.tokenStart.offset < s.nextLocated.scanner.location.offset
  /-- The request never goes beyond the source. -/
  stop_le : s.nextLocated.scanner.location.offset ≤ source.utf8ByteSize
  /-- The answer is the result, and a token comes with the place where it starts. -/
  answer : s.nextLocated.answer =
    t.result.map fun token => some (s.nextLocated.scanner.tokenStart, token)
  /-- An error lies where the span starts. -/
  error : ∀ error, t.result = .error error → error.location = s.nextLocated.scanner.tokenStart
  /-- The span, with what follows it, is what the result is read from. -/
  reads : ∃ rest, Text.IsSlice source s.nextLocated.scanner.location.offset source.utf8ByteSize
      rest ∧ Reads s.nextLocated.scanner.tokenStart t.span rest t.result
  /-- A string that is never closed extends to the end of the source. -/
  unterminated : ∀ start, t.result = .error (.unterminatedString start) →
    s.nextLocated.scanner.location.offset = source.utf8ByteSize

end Tile

namespace Scanner

/-- A request covers the next tile of the source, which is what the scanner finds. -/
theorem HasRead.coveredBy {source : String} {front : List Char} {s : Scanner}
    (h : s.HasRead source front) {gap text rest : List Char} {result : Except LexError Token}
    (hfinds : s.Finds gap text rest result) : Tile.CoveredBy source ⟨gap, text, result⟩ s := by
  have hsource := h.source_eq_of_finds hfinds
  have hbefore : s.location = .behind front := h.location_eq
  have hstart : s.nextLocated.scanner.tokenStart = .behind (front ++ gap) :=
    hfinds.tokenStart_eq.trans (h.after_eq gap)
  have hstop : s.nextLocated.scanner.location = .behind (front ++ gap ++ text) :=
    (h.nextToken_of_finds hfinds).location_eq
  have hend : source.utf8ByteSize = (Location.behind (front ++ gap ++ text ++ rest)).offset := by
    rw [← hsource]
    exact (Text.byteSize_toList source).symm
  have hread : Reads (.behind (front ++ gap)) text rest result := h.after_eq gap ▸ hfinds.reads
  constructor
  case gap =>
    have hcut : source.toList = front ++ gap ++ (text ++ rest) := by simp [hsource]
    rw [hbefore, hstart]
    exact Text.isSlice_behind hcut
  case space => exact hfinds.space
  case span =>
    rw [hstart, hstop]
    exact Text.isSlice_behind hsource
  case first => exact hread.exists_cons
  case start_ge =>
    rw [hbefore, hstart]
    simp [Location.behind]
  case start_lt =>
    obtain ⟨first, run, rfl, _⟩ := hread.exists_cons
    rw [hstart, hstop]
    have hpos : Text.byteSize (first :: run) ≠ 0 := by simp
    simp only [Location.behind, Text.byteSize_append]
    omega
  case stop_le =>
    rw [hstop, hend]
    simp [Location.behind]
  case answer =>
    cases result <;> simp [nextLocated, hfinds.answer_eq, Except.map]
  case error =>
    rintro error rfl
    rw [hstart]
    exact hread.error_location
  case reads =>
    refine ⟨rest, ?_, ?_⟩
    · have hcut : source.toList = front ++ gap ++ text ++ rest ++ [] := by simp [hsource]
      rw [hstop, hend]
      exact Text.isSlice_behind hcut
    · rw [hstart]
      exact hread
  case unterminated =>
    rintro start rfl
    rw [hstop, hend, hread.rest_of_unterminated, List.append_nil]

/-- A request that finds nothing to read has passed over white space to the end of the source. -/
structure EndsAt (source : String) (last : List Char) (s : Scanner) : Prop where
  /-- The request answers that there is no token. -/
  answer : s.nextLocated.answer = .ok none
  /-- What is passed over extends from where the scanner stood to the end of the source. -/
  gap : Text.IsSlice source s.location.offset source.utf8ByteSize last
  /-- What is passed over is white space. -/
  space : Text.IsSpace last
  /-- The next token would start where the scanner stands. -/
  tokenStart : s.nextLocated.scanner.tokenStart = s.nextLocated.scanner.location
  /-- The scanner stands at the end of the source. -/
  stop : s.nextLocated.scanner.location.offset = source.utf8ByteSize

/-- Where only white space is ahead, a request finds the end of the source. -/
theorem HasRead.endsAt {source : String} {front : List Char} {s : Scanner}
    (h : s.HasRead source front) (hspace : Text.IsSpace s.cursor.ahead) :
    s.EndsAt source s.cursor.ahead := by
  have hnext := nextToken_of_isSpace hspace
  have hlast : s.nextLocated.scanner.HasRead source (front ++ s.cursor.ahead) := by
    rw [nextLocated_scanner, hnext]
    simpa using h.advance s.cursor.ahead.length
  have hend : source.utf8ByteSize = (Location.behind (front ++ s.cursor.ahead)).offset := by
    rw [← h.text]
    exact (Text.byteSize_toList source).symm
  constructor
  case answer => simp [nextLocated, hnext, Except.map]
  case gap =>
    have hcut : source.toList = front ++ s.cursor.ahead ++ [] := by simp [h.text]
    rw [location, h.location_eq, hend]
    exact Text.isSlice_behind hcut
  case space => exact hspace
  case tokenStart =>
    rw [location, hlast.location_eq, nextLocated_scanner, hnext, ← h.after_eq]
  case stop => rw [location, hlast.location_eq, hend]

/-- A scanner that is asked until it finds the end covers what is ahead of it with tiles. -/
theorem HasRead.exists_tiles {source : String} {front : List Char} {s : Scanner}
    (h : s.HasRead source front) :
    ∃ (tiles : List Tile) (last : List Char),
      s.cursor.ahead = tiles.flatMap Tile.text ++ last ∧
      (∀ i (hi : i < tiles.length), tiles[i].CoveredBy source (s.afterRequests i)) ∧
      (s.afterRequests tiles.length).EndsAt source last := by
  induction s using request_induction generalizing front with
  | ended s hend => exact ⟨[], s.cursor.ahead, rfl, by simp, h.endsAt (isSpace_of_answer hend)⟩
  | found s hfound ih =>
    obtain ⟨gap, text, rest, result, hfinds⟩ := exists_finds hfound
    have hcovered := h.coveredBy hfinds
    have hbehind := hfinds.ahead_nextToken
    obtain ⟨more, hmore⟩ := h.nextToken
    obtain ⟨tiles, last, htext, htiles, hlast⟩ := ih hmore
    refine ⟨⟨gap, text, result⟩ :: tiles, last, ?_, ?_, hlast⟩
    · rw [hfinds.ahead, ← hbehind, htext]
      simp [Tile.text]
    · intro i hi
      cases i with
      | zero => exact hcovered
      | succ i => exact htiles i (by simpa using hi)

end Scanner

/-- Requests for located tokens, continued after errors until there is none, cover the source with
tiles one behind the other. Every request covers one tile, from where the one before it stopped,
and behind the last tile there is only white space. -/
theorem tiles_cover (source : String) :
    ∃ (tiles : List Tile) (last : List Char),
      (Scanner.ofSource source).location.offset = 0 ∧
      source.toList = tiles.flatMap Tile.text ++ last ∧
      (∀ i (hi : i < tiles.length),
        tiles[i].CoveredBy source ((Scanner.ofSource source).afterRequests i)) ∧
      ((Scanner.ofSource source).afterRequests tiles.length).EndsAt source last := by
  have h : (Scanner.ofSource source).HasRead source [] := Cursor.hasRead_ofSource source
  obtain ⟨tiles, last, htext, htiles, hlast⟩ := h.exists_tiles
  exact ⟨tiles, last, rfl, htext, htiles, hlast⟩

end Lexis
