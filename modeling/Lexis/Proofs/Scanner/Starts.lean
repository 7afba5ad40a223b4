import Lexis.Proofs.Scanner.Recovery
import Lexis.Proofs.Scanner.Sessions
import Lexis.Proofs.Scanner.Spans
import Lexis.Proofs.Source.Ordering

/-!
# Where steps start

A step starts at the next character that is not white space, or at the end of the text. The steps
of a source start one behind the other, so where a step starts tells which step it is, even if only
the line and the column are known.
-/

namespace Lexis

namespace Scanner

/-- At the start of a token there is no white space to move over. -/
theorem toTokenStart_again (s : Scanner) : s.toTokenStart.toTokenStart = s.toTokenStart := by
  have hskip : s.toTokenStart.cursor.skipWhiteSpace = s.toTokenStart.cursor := by
    cases hahead : s.toTokenStart.cursor.ahead with
    | nil => exact Cursor.skipWhiteSpace_of_nil hahead
    | cons first rest =>
      rw [Cursor.skipWhiteSpace_of_cons hahead, isWhiteSpace_of_ahead_toTokenStart hahead]
      rfl
  rw [toTokenStart, hskip]
  rfl

/-- A request for a token does the same whether or not the white space ahead was moved over
before. -/
theorem nextToken_toTokenStart (s : Scanner) : s.toTokenStart.nextToken = s.nextToken := by
  rw [nextToken, toTokenStart_again, nextToken]

/-- The step of a request starts where the white space ends. -/
theorem tokenStart_nextToken (s : Scanner) :
    s.nextToken.scanner.tokenStart = s.toTokenStart.location := by
  cases hahead : s.toTokenStart.cursor.ahead with
  | nil =>
    rw [nextToken_of_nil hahead]
    rfl
  | cons first rest =>
    obtain ⟨n, text, -, hread⟩ :=
      exists_take_readToken hahead (isWhiteSpace_of_ahead_toTokenStart hahead)
    rw [nextToken_of_cons hahead, hread]
    rfl

/-- The step of a request does not start before the place where the scanner stands. -/
theorem offset_le_tokenStart (s : Scanner) :
    s.location.offset ≤ s.nextToken.scanner.tokenStart.offset :=
  offset_le_start (List.mem_of_getElem? s.steps_zero)

section

variable {source : String} {front front' : List Char} {s t : Scanner}

/-- A scanner that has moved over white space stands behind a longer prefix of the source. -/
theorem HasRead.toTokenStart (h : s.HasRead source front) :
    ∃ more, s.toTokenStart.HasRead source (front ++ more) :=
  Cursor.HasRead.apply h .skipWhiteSpace

/-- Steps start at places of the source. -/
theorem HasRead.isPlaceIn_tokenStart (h : s.HasRead source front) :
    s.nextToken.scanner.tokenStart.IsPlaceIn source := by
  obtain ⟨more, hmore⟩ := h.toTokenStart
  rw [tokenStart_nextToken]
  exact hmore.isPlaceIn

/-- If something is found, the scanner stops behind the place where the step starts. -/
theorem HasRead.tokenStart_lt_location (h : s.HasRead source front)
    (hfound : s.nextToken.answer ≠ .ok none) :
    s.nextToken.scanner.tokenStart.offset < s.nextToken.scanner.location.offset := by
  obtain ⟨gap, text, rest, result, hfinds⟩ := exists_finds hfound
  exact (h.coveredBy hfinds).start_lt

/-- Behind a step that finds something, whatever the scanner is asked meanwhile, a later step starts
at a later line, or further on the same line. -/
theorem HasRead.tokenStart_lt_later (hlength : source.length < UInt32.size - 1)
    (h : s.HasRead source front) (hfound : s.nextToken.answer ≠ .ok none)
    (between : List Request) :
    s.nextToken.scanner.tokenStart.lineColumn <
      (s.nextToken.scanner.asked between).nextToken.scanner.tokenStart.lineColumn := by
  obtain ⟨more, hmore⟩ := h.nextToken
  obtain ⟨later, hlater⟩ := hmore.asked between
  have hmoved := s.nextToken.scanner.offset_le_asked between
  have hstop := h.tokenStart_lt_location hfound
  have hstart := (s.nextToken.scanner.asked between).offset_le_tokenStart
  exact h.isPlaceIn_tokenStart.lineColumn_lt_of_offset_lt hlength hlater.isPlaceIn_tokenStart
    (by omega)

/-- The steps up to the end of the text start at later and later lines and columns. -/
theorem HasRead.pairwise_steps (hlength : source.length < UInt32.size - 1)
    (h : s.HasRead source front) :
    s.steps.Pairwise fun step later => step.start.lineColumn < later.start.lineColumn := by
  induction s using request_induction generalizing front with
  | ended s hend =>
    rw [Scanner.steps_of_end hend]
    exact List.pairwise_singleton _ _
  | found s hfound ih =>
    obtain ⟨more, hmore⟩ := h.nextToken
    rw [steps_of_result hfound, List.pairwise_cons]
    refine ⟨fun later hlater => ?_, ih hmore⟩
    obtain ⟨i, hi⟩ := List.getElem?_of_mem hlater
    rw [eq_step_of_getElem? hi, afterRequests_eq_asked]
    exact h.tokenStart_lt_later hlength hfound _

/-- Two scanners of a source that start a step at one place make the same step. -/
theorem HasRead.step_eq_of_tokenStart_eq (h : s.HasRead source front)
    (h' : t.HasRead source front')
    (hstart : s.nextToken.scanner.tokenStart = t.nextToken.scanner.tokenStart) :
    s.nextToken.step = t.nextToken.step := by
  -- Behind the white space both have the same cursor, and nothing else counts.
  obtain ⟨more, hmore⟩ := h.toTokenStart
  obtain ⟨more', hmore'⟩ := h'.toTokenStart
  have hlocation : s.toTokenStart.location = t.toTokenStart.location := by
    rw [← tokenStart_nextToken, ← tokenStart_nextToken, hstart]
  have hcursor := hmore.standsIn.eq_of_location_eq hmore'.standsIn hlocation
  obtain ⟨hanswer, -, hnext⟩ := nextToken_congr hcursor
  rw [nextToken_toTokenStart, nextToken_toTokenStart] at hanswer hnext
  simp only [Reply.step, location, hanswer, hnext, hstart]

end

end Scanner

end Lexis
