import Lexis.Scanner.Basic
import Lexis.Source.Movement

/-!
# What the readers of a scanner take

A scanner leaves each token to one of three readers. This file says for each of them which text
it takes, what it gathers and what it answers, so that the other theorems need not follow the
readers character by character.
-/

namespace Lexis

namespace Scanner

/-- The scanner after its cursor has moved over `n` characters and `text` has been gathered. -/
def take (n : Nat) (text : List Char) (s : Scanner) : Scanner :=
  { s with cursor := s.cursor.advance n, lexeme := String.ofList text }

/-- What is ahead after taking characters is what follows them. -/
@[simp] theorem ahead_take (n : Nat) (text : List Char) (s : Scanner) :
    (s.take n text).cursor.ahead = s.cursor.ahead.drop n :=
  rfl

/-- At the start of a token the white space before it has been moved over. -/
theorem toTokenStart_eq (s : Scanner) :
    s.toTokenStart =
      { s with
        cursor := s.cursor.advance (s.cursor.ahead.takeWhile Text.isWhiteSpace).length
        tokenStart := s.location.after (s.cursor.ahead.takeWhile Text.isWhiteSpace) } := by
  have htake := List.prefix_iff_eq_take.mp (List.takeWhile_prefix (l := s.cursor.ahead)
    Text.isWhiteSpace)
  simp only [toTokenStart, Cursor.skipWhiteSpace_eq, Cursor.location_advance, location]
  rw [← htake]

/-- A cleared scanner gathers exactly the longest run of characters that satisfy the test. -/
theorem gather_clear (p : Char → Bool) (s : Scanner) :
    s.clear.gather p =
      s.take (s.cursor.ahead.takeWhile p).length (s.cursor.ahead.takeWhile p) := by
  simp [gather, clear, take, Cursor.eatWhile_eq]

/-- The body of a string that is closed holds the text up to the closing mark. -/
theorem readStringBody_of_closed (start : Location) {s : Scanner} {body rest : List Char}
    (hahead : s.cursor.ahead = body ++ Text.quoteMark :: rest) (hbody : Text.quoteMark ∉ body) :
    s.readStringBody start =
      (.ok (.string (s.lexeme ++ String.ofList body)),
        { s with
          cursor := s.cursor.advance (body.length + 1)
          lexeme := s.lexeme ++ String.ofList body }) := by
  induction body generalizing s with
  | nil =>
    rw [readStringBody]
    simp [Cursor.peek_of_cons hahead, closeString, Cursor.read_of_cons hahead]
  | cons char body ih =>
    have hchar : char ≠ Text.quoteMark := fun h => hbody (by simp [h])
    rw [readStringBody]
    simp only [Cursor.peek_of_cons hahead, if_neg hchar]
    split
    · next hread => simp [Cursor.read_of_cons hahead] at hread
    · next found cursor hread =>
      simp only [Cursor.read_of_cons hahead, Except.ok.injEq, Prod.mk.injEq] at hread
      obtain ⟨rfl, rfl⟩ := hread
      rw [ih (by simp [hahead]) (fun h => hbody (by simp [h]))]
      simp [Cursor.advance_advance, Nat.add_comm 1, String.ofList_cons, ← String.append_assoc]

/-- The body of a string that is never closed is the rest of the text. -/
theorem readStringBody_of_open (start : Location) {s : Scanner} {body : List Char}
    (hahead : s.cursor.ahead = body) (hbody : Text.quoteMark ∉ body) :
    s.readStringBody start =
      (.error (.unterminatedString start),
        { s with
          cursor := s.cursor.advance body.length
          lexeme := s.lexeme ++ String.ofList body }) := by
  induction body generalizing s with
  | nil =>
    rw [readStringBody]
    simp [Cursor.peek_of_nil hahead]
  | cons char body ih =>
    have hchar : char ≠ Text.quoteMark := fun h => hbody (by simp [h])
    rw [readStringBody]
    simp only [Cursor.peek_of_cons hahead, if_neg hchar]
    split
    · next hread => simp [Cursor.read_of_cons hahead] at hread
    · next found cursor hread =>
      simp only [Cursor.read_of_cons hahead, Except.ok.injEq, Prod.mk.injEq] at hread
      obtain ⟨rfl, rfl⟩ := hread
      rw [ih (by simp [hahead]) (fun h => hbody (by simp [h]))]
      simp [Cursor.advance_advance, Nat.add_comm 1, String.ofList_cons, ← String.append_assoc]

/-- A string is read up to its closing quotation mark and holds what stands between the marks. -/
theorem readString_of_closed {s : Scanner} {body rest : List Char}
    (hahead : s.cursor.ahead = Text.quoteMark :: (body ++ Text.quoteMark :: rest))
    (hbody : Text.quoteMark ∉ body) :
    s.readString = (.ok (.string (String.ofList body)), s.take (body.length + 2) body) := by
  have hread := Cursor.read_of_cons (c := s.clear.cursor) hahead
  have hrest : (s.cursor.advance 1).ahead = body ++ Text.quoteMark :: rest := by simp [hahead]
  simp only [readString, hread, ne_eq, not_true_eq_false, if_false]
  rw [readStringBody_of_closed _ (by simpa [clear] using hrest) hbody]
  simp [clear, take, Cursor.advance_advance, Nat.add_left_comm 1]

/-- A string without a closing quotation mark takes the rest of the text, and the error lies at
the place where the string was opened. -/
theorem readString_of_open {s : Scanner} {body : List Char}
    (hahead : s.cursor.ahead = Text.quoteMark :: body) (hbody : Text.quoteMark ∉ body) :
    s.readString = (.error (.unterminatedString s.location), s.take (body.length + 1) body) := by
  have hread := Cursor.read_of_cons (c := s.clear.cursor) hahead
  have hrest : (s.cursor.advance 1).ahead = body := by simp [hahead]
  simp only [readString, hread, ne_eq, not_true_eq_false, if_false]
  rw [readStringBody_of_open _ (by simpa [clear] using hrest) hbody]
  simp [clear, take, location, Cursor.advance_advance, Nat.add_comm 1]

/-- A number takes the longest run of digits and has its value. -/
theorem readNumber_of_digit {s : Scanner} {first : Char} {rest : List Char}
    (hahead : s.cursor.ahead = first :: rest) (hfirst : Text.isDigit first = true) :
    s.readNumber =
      (.ok (.number (.ofNat (Nat.ofDigitChars 10 (s.cursor.ahead.takeWhile Text.isDigit) 0))),
        s.take (s.cursor.ahead.takeWhile Text.isDigit).length
          (s.cursor.ahead.takeWhile Text.isDigit)) := by
  have hne : s.cursor.ahead.takeWhile Text.isDigit ≠ [] := by simp [hahead, hfirst]
  have hdigits : ∀ c ∈ s.cursor.ahead.takeWhile Text.isDigit, c.isDigit = true :=
    fun c hc => List.all_eq_true.mp List.all_takeWhile c hc
  simp only [readNumber, gather_clear]
  simp only [take, Binary64.ofDigits?_ofList hne hdigits]

/-- A bare run extends to the next white space. -/
theorem readBare_of_cons {s : Scanner} {first : Char} {rest : List Char}
    (hahead : s.cursor.ahead = first :: rest) (hfirst : Text.isWhiteSpace first = false) :
    s.readBare =
      (classifyRun first (String.ofList (s.cursor.ahead.takeWhile Text.isBare)) s.tokenStart,
        s.take (s.cursor.ahead.takeWhile Text.isBare).length
          (s.cursor.ahead.takeWhile Text.isBare)) := by
  have hrun : s.cursor.ahead.takeWhile Text.isBare = first :: rest.takeWhile Text.isBare := by
    simp [hahead, Text.isBare, hfirst]
  simp only [readBare, gather_clear, hrun]
  simp only [take, String.toList_ofList]

end Scanner

end Lexis
