import Lexis.Proofs.Scanner.Readings
import Lexis.Scanner.Items

/-!
# Scans without errors

`Scans s tokens s'` says that requests for tokens lead the scanner `s` through exactly these
tokens to `s'`. An item of a scanner without a mark is what such a request finds. A collection of
tokens is a scan followed by the request that ends it, which finds the end of the text or an error.
-/

namespace Lexis

namespace Scanner

/-- A scanner that has given out an error has no further items. -/
theorem next_of_failed {s : Scanner} (h : s.failed = true) :
    s.next = { answer := none, events := [], scanner := s } := by
  simp [next, h]

/-- At the end of the text there is no item. -/
theorem next_of_end {s : Scanner} (hfailed : s.failed = false)
    (h : s.nextToken.answer = .ok none) :
    s.next = { answer := none, events := s.nextToken.events, scanner := s.nextToken.scanner } := by
  simp [next, hfailed, h]

/-- A token is an item. -/
theorem next_of_token {s : Scanner} {token : Token} (hfailed : s.failed = false)
    (h : s.nextToken.answer = .ok (some token)) :
    s.next =
      { answer := some (.ok token)
        events := s.nextToken.events
        scanner := s.nextToken.scanner } := by
  simp [next, hfailed, h]

/-- An error is an item, and marks the scanner. -/
theorem next_of_error {s : Scanner} {error : LexError} (hfailed : s.failed = false)
    (h : s.nextToken.answer = .error error) :
    s.next =
      { answer := some (.error error)
        events := s.nextToken.events
        scanner := { s.nextToken.scanner with failed := true } } := by
  simp [next, hfailed, h]

/-- A request that gives out an error as an item marks the scanner. -/
theorem failed_of_next_error {s : Scanner} {error : LexError}
    (h : s.next.answer = some (.error error)) : s.next.scanner.failed = true := by
  have hunmarked : s.failed = false := by
    by_contra hfailed
    simp [next_of_failed (s := s) (by simpa using hfailed)] at h
  cases hanswer : s.nextToken.answer with
  | error found => rw [next_of_error hunmarked hanswer]
  | ok token? => cases token? <;> simp [next, hunmarked, hanswer] at h

/-- Requests for tokens yield these tokens one after the other and end in the last scanner. -/
inductive Scans : Scanner → List Token → Scanner → Prop
  /-- No request yields no token. -/
  | nil (s : Scanner) : Scans s [] s
  /-- The first request yields the first token, the others go on from there. -/
  | cons {s s' : Scanner} {token : Token} {tokens : List Token}
      (hfirst : s.nextToken.answer = .ok (some token))
      (hlater : Scans s.nextToken.scanner tokens s') : Scans s (token :: tokens) s'

/-- A scan without errors leaves the mark for errors alone. -/
theorem Scans.failed_eq {s s' : Scanner} {tokens : List Token} (h : Scans s tokens s') :
    s'.failed = s.failed := by
  induction h with
  | nil s => rfl
  | cons hfirst hlater ih => rw [ih, failed_nextToken]

/-- Where there is no item, asking for all items is asking for the next one. -/
theorem rest_eq_of_none {s : Scanner} (h : s.next.answer = none) :
    s.rest = { answer := [], events := s.next.events, scanner := s.next.scanner } := by
  rw [rest]
  split
  · rfl
  · next item hitem => simp [h] at hitem

/-- Where there is an item, asking for all items is asking for the next one and then for all behind
it. -/
theorem rest_eq_of_some {s : Scanner} {item : Except LexError Token}
    (h : s.next.answer = some item) :
    s.rest =
      { answer := item :: s.next.scanner.rest.answer
        events := s.next.events ++ s.next.scanner.rest.events
        scanner := s.next.scanner.rest.scanner } := by
  rw [rest]
  split
  · next hitem => simp [h] at hitem
  · next found hitem =>
    obtain rfl : item = found := by simpa [h] using hitem
    rfl

/-- Where there is no item, none remain. -/
theorem rest_of_none {s : Scanner} (h : s.next.answer = none) : s.rest.answer = [] := by
  rw [rest_eq_of_none h]

/-- The remaining items are the next one and those that remain behind it. -/
theorem rest_of_some {s : Scanner} {item : Except LexError Token} (h : s.next.answer = some item) :
    s.rest.answer = item :: s.next.scanner.rest.answer := by
  rw [rest_eq_of_some h]

/-- Where there is no item, collecting tokens is asking for the next item. -/
theorem tryCollect_eq_of_none {s : Scanner} (h : s.next.answer = none) :
    s.tryCollect = { answer := .ok [], events := s.next.events, scanner := s.next.scanner } := by
  rw [tryCollect]
  split
  · rfl
  · next error hitem => simp [h] at hitem
  · next token hitem => simp [h] at hitem

/-- Where the next item is an error, collecting tokens is asking for that item. -/
theorem tryCollect_eq_of_error {s : Scanner} {error : LexError}
    (h : s.next.answer = some (.error error)) :
    s.tryCollect =
      { answer := .error error, events := s.next.events, scanner := s.next.scanner } := by
  rw [tryCollect]
  split
  · next hitem => simp [h] at hitem
  · next found hitem =>
    obtain rfl : error = found := by simpa [h] using hitem
    rfl
  · next token hitem => simp [h] at hitem

/-- Where the next item is a token, collecting tokens is asking for that item and then collecting
the tokens behind it. -/
theorem tryCollect_eq_of_token {s : Scanner} {token : Token}
    (h : s.next.answer = some (.ok token)) :
    s.tryCollect =
      { answer := s.next.scanner.tryCollect.answer.map (token :: ·)
        events := s.next.events ++ s.next.scanner.tryCollect.events
        scanner := s.next.scanner.tryCollect.scanner } := by
  rw [tryCollect]
  split
  · next hitem => simp [h] at hitem
  · next error hitem => simp [h] at hitem
  · next found hitem =>
    obtain rfl : token = found := by simpa [h] using hitem
    rfl

/-- What is collected is the next token and what is collected behind it. -/
theorem tryCollect_eq (s : Scanner) :
    s.tryCollect.answer =
      match s.next.answer with
      | none => .ok []
      | some (.error error) => .error error
      | some (.ok token) => s.next.scanner.tryCollect.answer.map (token :: ·) := by
  cases hitem : s.next.answer with
  | none => rw [tryCollect_eq_of_none hitem]
  | some item =>
    cases item with
    | error error => rw [tryCollect_eq_of_error hitem]
    | ok token => rw [tryCollect_eq_of_token hitem]

/-- At the end of the text nothing is collected. -/
theorem tryCollect_of_none {s : Scanner} (hfailed : s.failed = false)
    (hanswer : s.nextToken.answer = .ok none) : s.tryCollect.answer = .ok [] := by
  rw [tryCollect_eq, next_of_end hfailed hanswer]

/-- The first error ends a collection. -/
theorem tryCollect_of_error {s : Scanner} {error : LexError} (hfailed : s.failed = false)
    (hanswer : s.nextToken.answer = .error error) : s.tryCollect.answer = .error error := by
  rw [tryCollect_eq, next_of_error hfailed hanswer]

/-- A token is collected before the others. -/
theorem tryCollect_of_token {s : Scanner} {token : Token} (hfailed : s.failed = false)
    (hanswer : s.nextToken.answer = .ok (some token)) :
    s.tryCollect.answer = s.nextToken.scanner.tryCollect.answer.map (token :: ·) := by
  rw [tryCollect_eq, next_of_token hfailed hanswer]

/-- A scan collects its tokens before those of the scanner where it ends. -/
theorem Scans.tryCollect_eq {s s' : Scanner} {tokens : List Token} (h : Scans s tokens s')
    (hfailed : s.failed = false) :
    s.tryCollect.answer = s'.tryCollect.answer.map (tokens ++ ·) := by
  induction h with
  | nil s => cases s.tryCollect.answer <;> simp [Except.map]
  | @cons s s' token tokens hfirst hlater ih =>
    rw [tryCollect_of_token hfailed hfirst, ih (by rw [failed_nextToken, hfailed])]
    cases s'.tryCollect.answer <;> simp [Except.map]

/-- From every scanner a scan leads to a request that yields no token. -/
theorem exists_scans (s : Scanner) :
    ∃ tokens s', Scans s tokens s' ∧
      (s'.nextToken.answer = .ok none ∨ ∃ error, s'.nextToken.answer = .error error) := by
  induction s using request_induction with
  | ended s hend => exact ⟨[], s, .nil s, Or.inl hend⟩
  | found s hfound ih =>
    cases hanswer : s.nextToken.answer with
    | error error => exact ⟨[], s, .nil s, Or.inr ⟨error, hanswer⟩⟩
    | ok token? =>
      cases token? with
      | none => exact absurd hanswer hfound
      | some token =>
        obtain ⟨tokens, s', hscans, hend⟩ := ih
        exact ⟨token :: tokens, s', .cons hanswer hscans, hend⟩

/-- Collecting succeeds with the tokens of a scan that reaches the end of the text. -/
theorem tryCollect_eq_ok_iff {s : Scanner} (hfailed : s.failed = false) (tokens : List Token) :
    s.tryCollect.answer = .ok tokens ↔
      ∃ s', Scans s tokens s' ∧ s'.nextToken.answer = .ok none := by
  constructor
  · intro hcollect
    obtain ⟨tokens', s', hscans, hend⟩ := exists_scans s
    have hfailed' : s'.failed = false := by rw [hscans.failed_eq, hfailed]
    rw [hscans.tryCollect_eq hfailed] at hcollect
    rcases hend with hnone | ⟨error, herror⟩
    · rw [tryCollect_of_none hfailed' hnone] at hcollect
      obtain rfl : tokens' = tokens := by simpa [Except.map] using hcollect
      exact ⟨s', hscans, hnone⟩
    · rw [tryCollect_of_error hfailed' herror] at hcollect
      cases hcollect
  · rintro ⟨s', hscans, hnone⟩
    have hfailed' : s'.failed = false := by rw [hscans.failed_eq, hfailed]
    rw [hscans.tryCollect_eq hfailed, tryCollect_of_none hfailed' hnone]
    simp [Except.map]

/-- Collecting fails with the error that ends a scan. -/
theorem tryCollect_eq_error_iff {s : Scanner} (hfailed : s.failed = false) (error : LexError) :
    s.tryCollect.answer = .error error ↔
      ∃ tokens s', Scans s tokens s' ∧ s'.nextToken.answer = .error error := by
  constructor
  · intro hcollect
    obtain ⟨tokens, s', hscans, hend⟩ := exists_scans s
    have hfailed' : s'.failed = false := by rw [hscans.failed_eq, hfailed]
    rw [hscans.tryCollect_eq hfailed] at hcollect
    rcases hend with hnone | ⟨error', herror⟩
    · rw [tryCollect_of_none hfailed' hnone] at hcollect
      cases hcollect
    · rw [tryCollect_of_error hfailed' herror] at hcollect
      obtain rfl : error' = error := by simpa [Except.map] using hcollect
      exact ⟨tokens, s', hscans, herror⟩
  · rintro ⟨tokens, s', hscans, herror⟩
    have hfailed' : s'.failed = false := by rw [hscans.failed_eq, hfailed]
    rw [hscans.tryCollect_eq hfailed, tryCollect_of_error hfailed' herror]
    rfl

end Scanner

end Lexis
