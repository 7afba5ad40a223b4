import Mathlib.Data.Nat.Notation
import Lexis.Proofs.Scanner.Scans

/-!
# Exits that are never taken

The readers answer with an error where their text is not what they were chosen for: a string that
does not begin with a quotation mark, digits that are no number, an empty run. No request for a
token gets there, whatever state the scanner is in, and none reports that the text ended too soon.
-/

namespace Lexis

namespace Scanner

/-- A request for a token never reports that the text ended too soon. -/
theorem nextToken_ne_prematureEnd (s : Scanner) (l : Location) :
    s.nextToken.answer ≠ .error (.prematureEnd l) := by
  intro hanswer
  obtain ⟨gap, text, rest, hfinds⟩ := exists_finds_of_error hanswer
  cases hfinds.reads

/-- A request for a located token fails as a request for a token does. -/
theorem nextLocated_eq_error_iff (s : Scanner) (error : LexError) :
    s.nextLocated.answer = .error error ↔ s.nextToken.answer = .error error := by
  cases hanswer : s.nextToken.answer <;> simp [nextLocated, hanswer, Except.map]

/-- An error that is an item comes from a request for a token. -/
theorem nextToken_of_next_error {s : Scanner} {error : LexError}
    (h : s.next.answer = some (.error error)) : s.nextToken.answer = .error error := by
  by_cases hfailed : s.failed = true
  · simp [next, hfailed] at h
  · cases hanswer : s.nextToken.answer with
    | error found => simpa [next, hfailed, hanswer] using h
    | ok token? => cases token? <;> simp [next, hfailed, hanswer] at h

/-- The item that is given after skipping others is the next one somewhere. -/
theorem exists_next_of_nth {s : Scanner} {n : ℕ} {item : Except LexError Token}
    (h : (s.nth n).answer = some item) : ∃ s' : Scanner, s'.next.answer = some item := by
  induction n generalizing s with
  | zero => exact ⟨s, h⟩
  | succ n ih =>
    rw [nth] at h
    cases hnext : s.next.answer with
    | none => simp [hnext] at h
    | some first =>
      simp only [hnext] at h
      exact ih h

/-- Every item among the remaining ones is the next one somewhere. -/
theorem exists_next_of_mem_rest {s : Scanner} {item : Except LexError Token}
    (h : item ∈ s.rest.answer) : ∃ s' : Scanner, s'.next.answer = some item := by
  induction s using item_induction with
  | ended s hend => simp [rest_of_none hend] at h
  | found s first hnext ih =>
    rw [rest_of_some hnext] at h
    rcases List.mem_cons.mp h with rfl | hlater
    · exact ⟨s, hnext⟩
    · exact ih hlater

/-- The error that ends a collection is the next item somewhere. -/
theorem exists_next_of_tryCollect_error {s : Scanner} {error : LexError}
    (h : s.tryCollect.answer = .error error) :
    ∃ s' : Scanner, s'.next.answer = some (.error error) := by
  induction s using item_induction with
  | ended s hend => simp [tryCollect_eq, hend] at h
  | found s item hnext ih =>
    rw [tryCollect_eq, hnext] at h
    cases item with
    | error found =>
      obtain rfl : found = error := by simpa using h
      exact ⟨s, hnext⟩
    | ok token =>
      have hlater : s.next.scanner.tryCollect.answer = .error error := by
        cases hanswer : s.next.scanner.tryCollect.answer <;> simp_all [Except.map]
      exact ih hlater

/-- Some request to the scanner reports the error: for a token, with or without its place, for an
item, or for all that remains. -/
def Reports (s : Scanner) (error : LexError) : Prop :=
  s.nextToken.answer = .error error ∨ s.nextLocated.answer = .error error ∨
    s.next.answer = some (.error error) ∨ (∃ n, (s.nth n).answer = some (.error error)) ∨
    .error error ∈ s.rest.answer ∨ s.tryCollect.answer = .error error

/-- No request reports that the text ended too soon. -/
theorem not_reports_prematureEnd (s : Scanner) (l : Location) : ¬s.Reports (.prematureEnd l) := by
  have hitem : ∀ s' : Scanner, s'.next.answer ≠ some (.error (.prematureEnd l)) :=
    fun s' h => s'.nextToken_ne_prematureEnd l (nextToken_of_next_error h)
  rintro (h | h | h | ⟨n, h⟩ | h | h)
  · exact s.nextToken_ne_prematureEnd l h
  · exact s.nextToken_ne_prematureEnd l ((s.nextLocated_eq_error_iff _).mp h)
  · exact hitem s h
  · obtain ⟨s', h'⟩ := exists_next_of_nth h
    exact hitem s' h'
  · obtain ⟨s', h'⟩ := exists_next_of_mem_rest h
    exact hitem s' h'
  · obtain ⟨s', h'⟩ := exists_next_of_tryCollect_error h
    exact hitem s' h'

/-- What a scanner finds before it calls a reader: the exits that the readers keep for other texts
are closed. -/
structure Ready (first : Char) (s : Scanner) : Prop where
  /-- A string is read at a quotation mark. -/
  string : first = Text.quoteMark →
    ∃ after, s.clear.cursor.read = .ok (Text.quoteMark, after)
  /-- The digits of a number stand for one. -/
  number : Text.isDigit first = true →
    ∃ value, Binary64.ofDigits? (s.clear.gather Text.isDigit).lexeme = some value
  /-- A bare run is not empty, and begins with the character that called for it. -/
  bare : first ≠ Text.quoteMark → Text.isDigit first = false →
    ∃ run, (s.clear.gather Text.isBare).lexeme.toList = first :: run

/-- Whatever state a scanner is in, the reader that it calls is ready for what lies ahead. -/
theorem ready_toTokenStart {s : Scanner} {first : Char}
    (hpeek : s.toTokenStart.cursor.peek = .ok first) : Ready first s.toTokenStart := by
  cases hahead : s.toTokenStart.cursor.ahead with
  | nil => simp [Cursor.peek_of_nil hahead] at hpeek
  | cons next rest =>
    obtain rfl : next = first := by simpa [Cursor.peek_of_cons hahead] using hpeek
    have hspace := isWhiteSpace_of_ahead_toTokenStart hahead
    constructor
    · rintro rfl
      exact ⟨_, Cursor.read_of_cons (c := s.toTokenStart.clear.cursor) hahead⟩
    · intro hdigit
      rw [gather_clear, hahead]
      refine ⟨_, Binary64.ofDigits?_ofList ?_ ?_⟩
      · simp [hdigit]
      · exact (Text.isRun_takeWhile Text.isDigit _).inside
    · intro _ _
      rw [gather_clear, hahead]
      exact ⟨rest.takeWhile Text.isBare, by simp [take, Text.isBare, hspace]⟩

end Scanner

end Lexis
