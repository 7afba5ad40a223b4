import Lexis.Scanner.Readers

/-!
# Every token takes characters

A request that yields a token or an error moves the scanner forward. This is what lets the
functions that run a scanner to its end recurse on the number of characters that are left.
-/

namespace Lexis

namespace Scanner

/-- The number of characters that a scanner has not read yet. -/
def left (s : Scanner) : Nat :=
  s.cursor.ahead.length

/-- Taking characters leaves the others. -/
@[simp] theorem left_take (n : Nat) (text : List Char) (s : Scanner) :
    (s.take n text).left = s.left - n := by
  simp [left]

/-- Every reader takes some characters and changes nothing else but the gathered text. -/
theorem exists_take_readToken {s : Scanner} {first : Char} {rest : List Char}
    (hahead : s.cursor.ahead = first :: rest) (hfirst : Text.isWhiteSpace first = false) :
    ∃ n text, 0 < n ∧ (s.readToken first).2 = s.take n text := by
  unfold readToken
  split
  · next hquote =>
    subst hquote
    by_cases hclosed : Text.quoteMark ∈ rest
    · obtain ⟨body, tail, rfl, hbody⟩ := List.eq_append_cons_of_mem hclosed
      rw [readString_of_closed hahead hbody]
      exact ⟨_, _, Nat.succ_pos _, rfl⟩
    · rw [readString_of_open hahead hclosed]
      exact ⟨_, _, Nat.succ_pos _, rfl⟩
  · split
    · next hdigit =>
      rw [readNumber_of_digit hahead hdigit]
      exact ⟨_, _, by simp [hahead, hdigit], rfl⟩
    · rw [readBare_of_cons hahead hfirst]
      exact ⟨_, _, by simp [hahead, Text.isBare, hfirst], rfl⟩

/-- Reading a token takes at least its first character. -/
theorem left_readToken_lt {s : Scanner} {first : Char} {rest : List Char}
    (hahead : s.cursor.ahead = first :: rest) (hfirst : Text.isWhiteSpace first = false) :
    (s.readToken first).2.left < s.left := by
  obtain ⟨n, text, hpos, hread⟩ := exists_take_readToken hahead hfirst
  have hleft : 0 < s.left := by simp [left, hahead]
  rw [hread, left_take]
  omega

/-- At the start of a token the text ahead is what follows the white space. -/
theorem ahead_toTokenStart (s : Scanner) :
    s.toTokenStart.cursor.ahead = s.cursor.ahead.dropWhile Text.isWhiteSpace := by
  rw [toTokenStart_eq, Cursor.ahead_advance]
  exact Cursor.drop_length_takeWhile _ _

/-- Moving to the start of a token never moves backwards. -/
theorem left_toTokenStart_le (s : Scanner) : s.toTokenStart.left ≤ s.left := by
  simp only [left, toTokenStart_eq, Cursor.ahead_advance, List.length_drop]
  omega

/-- No token begins with white space. -/
theorem isWhiteSpace_of_ahead_toTokenStart {s : Scanner} {first : Char} {rest : List Char}
    (hahead : s.toTokenStart.cursor.ahead = first :: rest) :
    Text.isWhiteSpace first = false := by
  rw [ahead_toTokenStart] at hahead
  have h := List.head?_dropWhile_not Text.isWhiteSpace s.cursor.ahead
  rw [hahead] at h
  simpa using h

/-- Where only white space is left, a request reports the end of the text. -/
theorem nextToken_of_nil {s : Scanner} (hahead : s.toTokenStart.cursor.ahead = []) :
    s.nextToken = { answer := .ok none, events := [], scanner := s.toTokenStart } := by
  simp only [nextToken, Cursor.peek_of_nil hahead]

/-- Where more than white space is left, a request reads the token at the next character that is not
white space. -/
theorem nextToken_of_cons {s : Scanner} {first : Char} {rest : List Char}
    (hahead : s.toTokenStart.cursor.ahead = first :: rest) :
    s.nextToken =
      { answer := (s.toTokenStart.readToken first).1.map some
        events := [readingEvent s.toTokenStart.tokenStart (s.toTokenStart.readToken first).1]
        scanner := (s.toTokenStart.readToken first).2 } := by
  simp only [nextToken, Cursor.peek_of_cons hahead]

/-- A request that does not report the end of the text takes characters. -/
theorem left_nextToken_lt {s : Scanner} (h : s.nextToken.answer ≠ .ok none) :
    s.nextToken.scanner.left < s.left := by
  refine Nat.lt_of_lt_of_le ?_ (left_toTokenStart_le s)
  cases hahead : s.toTokenStart.cursor.ahead with
  | nil => exact absurd (by rw [nextToken_of_nil hahead]) h
  | cons first rest =>
    rw [nextToken_of_cons hahead]
    exact left_readToken_lt hahead (isWhiteSpace_of_ahead_toTokenStart hahead)

/-- A bound on the requests for items that can still be of use: one for each character left and
one for the end, or none once an error has been given out. -/
def budget (s : Scanner) : Nat :=
  if s.failed then 0 else s.left + 1

/-- Asking for a token does not touch the mark that an error has been given out. -/
theorem failed_nextToken (s : Scanner) : s.nextToken.scanner.failed = s.failed := by
  cases hahead : s.toTokenStart.cursor.ahead with
  | nil => rw [nextToken_of_nil hahead]; rfl
  | cons first rest =>
    obtain ⟨n, text, _, hread⟩ :=
      exists_take_readToken hahead (isWhiteSpace_of_ahead_toTokenStart hahead)
    rw [nextToken_of_cons hahead, hread]
    rfl

/-- Every item uses up some of the budget. -/
theorem budget_next_lt {s : Scanner} {item : Except LexError Token}
    (h : s.next.answer = some item) : s.next.scanner.budget < s.budget := by
  unfold next at h ⊢
  by_cases hfailed : s.failed = true
  · simp [hfailed] at h
  · have hmark : s.failed = false := by simpa using hfailed
    simp only [hmark, Bool.false_eq_true, if_false] at h ⊢
    have hkept : s.nextToken.scanner.failed = false := by rw [failed_nextToken, hmark]
    cases hanswer : s.nextToken.answer with
    | error error => simp [budget, hmark]
    | ok token? =>
      cases token? with
      | none => simp [hanswer] at h
      | some token =>
        have hlt : s.nextToken.scanner.left < s.left :=
          left_nextToken_lt (by simp [hanswer])
        simp [budget, hmark, hkept, hlt]

/-- Induction along requests for tokens: each takes characters, until one finds the end of the
text. -/
theorem request_induction {P : Scanner → Prop}
    (ended : ∀ s, s.nextToken.answer = .ok none → P s)
    (found : ∀ s, s.nextToken.answer ≠ .ok none → P s.nextToken.scanner → P s) (s : Scanner) :
    P s := by
  induction hleft : s.left using Nat.strongRecOn generalizing s with
  | ind left ih =>
    by_cases hend : s.nextToken.answer = .ok none
    · exact ended s hend
    · exact found s hend (ih _ (hleft ▸ left_nextToken_lt hend) _ rfl)

/-- Induction along requests for items, until there is none. -/
theorem item_induction {P : Scanner → Prop} (ended : ∀ s, s.next.answer = none → P s)
    (found : ∀ s item, s.next.answer = some item → P s.next.scanner → P s) (s : Scanner) :
    P s := by
  induction hbudget : s.budget using Nat.strongRecOn generalizing s with
  | ind budget ih =>
    cases hnext : s.next.answer with
    | none => exact ended s hnext
    | some item => exact found s item hnext (ih _ (hbudget ▸ budget_next_lt hnext) _ rfl)

end Scanner

end Lexis
