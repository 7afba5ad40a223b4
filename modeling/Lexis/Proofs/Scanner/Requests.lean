import Lexis.Proofs.Scanner.Places
import Lexis.Scanner.Steps

/-!
# Sequences of requests

A scanner may be asked in any order for tokens, for tokens with their places, for items, or for
several items at once. All of this comes down to requests for tokens, and to the mark that an error
has been given out as an item. A property that these two keep holds in every state that a scanner
can be brought into.
-/

namespace Lexis

namespace Scanner

/-- The scanner after a number of requests for located tokens, whatever they answer. -/
def afterRequests : ℕ → Scanner → Scanner
  | 0, s => s
  | n + 1, s => s.nextLocated.scanner.afterRequests n

/-- Asking for the place of a token as well does not change how the scanner moves. -/
@[simp] theorem nextLocated_scanner (s : Scanner) :
    s.nextLocated.scanner = s.nextToken.scanner :=
  rfl

/-- A request for a located token answers as one for a token does. -/
theorem nextLocated_answer (s : Scanner) :
    s.nextLocated.answer =
      s.nextToken.answer.map (Option.map fun token => (s.nextToken.scanner.tokenStart, token)) :=
  rfl

/-- Requests may be counted in two parts. -/
theorem afterRequests_add (s : Scanner) (m n : ℕ) :
    s.afterRequests (m + n) = (s.afterRequests m).afterRequests n := by
  induction m generalizing s with
  | zero => rw [Nat.zero_add, afterRequests]
  | succ m ih => rw [Nat.succ_add, afterRequests, afterRequests, ih]

/-- The end of the text is found again, and finding it again changes nothing. -/
theorem nextToken_again {s : Scanner} (h : s.nextToken.answer = .ok none) :
    s.nextToken.scanner.nextToken =
      { answer := .ok none, events := [], scanner := s.nextToken.scanner } := by
  have hspace := isSpace_of_answer h
  rw [nextToken_of_isSpace hspace]
  rw [nextToken_of_isSpace (by simp [Text.IsSpace])]
  simp [location]

/-- A request to a scanner. -/
inductive Request where
  /-- Asks for a token. -/
  | token
  /-- Asks for a token with its place. -/
  | located
  /-- Asks for an item. -/
  | item
  /-- Skips `n` items and asks for the one after them. -/
  | nth (n : ℕ)
  /-- Asks for all remaining items. -/
  | rest
  /-- Asks for all remaining tokens, up to the first error. -/
  | collect

/-- The scanner after a request. -/
def Request.apply (s : Scanner) : Request → Scanner
  | .token => s.nextToken.scanner
  | .located => s.nextLocated.scanner
  | .item => s.next.scanner
  | .nth n => (s.nth n).scanner
  | .rest => s.rest.scanner
  | .collect => s.tryCollect.scanner

/-- The scanner after a sequence of requests. -/
def asked (s : Scanner) (requests : List Request) : Scanner :=
  requests.foldl Request.apply s

/-- Requests for located tokens are a sequence of requests. -/
theorem afterRequests_eq_asked (s : Scanner) (n : ℕ) :
    s.afterRequests n = s.asked (List.replicate n .located) := by
  induction n generalizing s with
  | zero => rfl
  | succ n ih => exact ih s.nextLocated.scanner

section Keeps

variable {P : Scanner → Prop} {s : Scanner}

/-- What requests for tokens and the mark for errors keep, a request for an item keeps. -/
theorem next_keeps (htoken : ∀ s, P s → P s.nextToken.scanner)
    (hmark : ∀ s, P s → P { s with failed := true }) (h : P s) : P s.next.scanner := by
  by_cases hfailed : s.failed = true
  · rwa [next_of_failed hfailed]
  · have hunmarked : s.failed = false := by simpa using hfailed
    cases hanswer : s.nextToken.answer with
    | error error =>
      rw [next_of_error hunmarked hanswer]
      exact hmark _ (htoken s h)
    | ok token? =>
      cases token? with
      | none =>
        rw [next_of_end hunmarked hanswer]
        exact htoken s h
      | some token =>
        rw [next_of_token hunmarked hanswer]
        exact htoken s h

/-- What requests for items keep, skipping items keeps. -/
theorem nth_keeps (hnext : ∀ s, P s → P s.next.scanner) (n : ℕ) (h : P s) :
    P (s.nth n).scanner := by
  induction n generalizing s with
  | zero => exact hnext s h
  | succ n ih =>
    rw [nth]
    split
    · exact hnext s h
    · exact ih (hnext s h)

/-- What requests for items keep, asking for all items keeps. -/
theorem rest_keeps (hnext : ∀ s, P s → P s.next.scanner) (h : P s) : P s.rest.scanner := by
  induction s using item_induction with
  | ended s hend =>
    rw [rest_eq_of_none hend]
    exact hnext s h
  | found s item hitem ih =>
    rw [rest_eq_of_some hitem]
    exact ih (hnext s h)

/-- What requests for items keep, collecting tokens keeps. -/
theorem tryCollect_keeps (hnext : ∀ s, P s → P s.next.scanner) (h : P s) :
    P s.tryCollect.scanner := by
  induction s using item_induction with
  | ended s hend =>
    rw [tryCollect_eq_of_none hend]
    exact hnext s h
  | found s item hitem ih =>
    cases item with
    | error error =>
      rw [tryCollect_eq_of_error hitem]
      exact hnext s h
    | ok token =>
      rw [tryCollect_eq_of_token hitem]
      exact ih (hnext s h)

/-- What requests for tokens and the mark for errors keep holds after any sequence of requests. -/
theorem asked_keeps (htoken : ∀ s, P s → P s.nextToken.scanner)
    (hmark : ∀ s, P s → P { s with failed := true }) (requests : List Request) (h : P s) :
    P (s.asked requests) := by
  have hnext : ∀ s, P s → P s.next.scanner := fun s => next_keeps htoken hmark
  induction requests generalizing s with
  | nil => exact h
  | cons request requests ih =>
    refine ih ?_
    cases request with
    | token => exact htoken s h
    | located => exact htoken s h
    | item => exact hnext s h
    | nth n => exact nth_keeps hnext n h
    | rest => exact rest_keeps hnext h
    | collect => exact tryCollect_keeps hnext h

end Keeps

/-- A request for a token moves the cursor over some number of characters. -/
theorem exists_advance_nextToken (s : Scanner) :
    ∃ n, s.nextToken.scanner.cursor = s.cursor.advance n := by
  rcases s.isSpace_or_finds with hspace | ⟨gap, text, rest, result, hfinds⟩
  · exact ⟨_, by rw [nextToken_of_isSpace hspace]⟩
  · obtain ⟨gathered, hnext⟩ := hfinds.nextToken_eq
    exact ⟨_, by rw [hnext, landed]⟩

/-- Whatever a scanner is asked, it never moves backwards. -/
theorem offset_le_asked (s : Scanner) (requests : List Request) :
    s.location.offset ≤ (s.asked requests).location.offset := by
  refine asked_keeps (P := fun t => s.location.offset ≤ t.location.offset) ?_ ?_ requests
    (Nat.le_refl _)
  · intro t ht
    obtain ⟨n, hadvance⟩ := t.exists_advance_nextToken
    simp only [location, hadvance, Cursor.location_advance, Location.offset_after] at ht ⊢
    omega
  · exact fun t ht => ht

/-- Whatever a scanner is asked, it stands behind a prefix of the source. -/
theorem HasRead.asked {source : String} {front : List Char} {s : Scanner}
    (h : s.HasRead source front) (requests : List Request) :
    ∃ more, (s.asked requests).HasRead source (front ++ more) := by
  refine asked_keeps (P := fun s => ∃ more, s.HasRead source (front ++ more)) ?_ ?_ requests
    ⟨[], by simpa using h⟩
  · rintro s ⟨more, hmore⟩
    obtain ⟨later, hlater⟩ := hmore.nextToken
    exact ⟨more ++ later, by simpa using hlater⟩
  · exact fun s hmore => hmore

/-- After requests for located tokens a scanner stands behind a prefix of the source. -/
theorem HasRead.afterRequests {source : String} {front : List Char} {s : Scanner}
    (h : s.HasRead source front) (n : ℕ) :
    ∃ more, (s.afterRequests n).HasRead source (front ++ more) := by
  induction n generalizing s front with
  | zero => exact ⟨[], by simpa [Scanner.afterRequests] using h⟩
  | succ n ih =>
    obtain ⟨more, hmore⟩ := h.nextToken
    obtain ⟨later, hlater⟩ := ih hmore
    exact ⟨more ++ later, by simpa [Scanner.afterRequests] using hlater⟩

/-- Where a request finds the end of the text, its step is the only one. -/
theorem steps_of_end {s : Scanner} (h : s.nextToken.answer = .ok none) :
    s.steps = [s.nextToken.step] := by
  rw [steps]
  split
  · rfl
  · next token hanswer => simp [h] at hanswer
  · next error hanswer => simp [h] at hanswer

/-- Where a request finds a token or an error, the steps go on behind that. -/
theorem steps_of_result {s : Scanner} (h : s.nextToken.answer ≠ .ok none) :
    s.steps = s.nextToken.step :: s.nextToken.scanner.steps := by
  rw [steps]
  split
  · next hanswer => exact absurd hanswer h
  · rfl
  · rfl

/-- The first step of a scanner is the one that a request for a token makes. -/
theorem steps_zero (s : Scanner) : s.steps[0]? = some s.nextToken.step := by
  by_cases hend : s.nextToken.answer = .ok none
  · rw [steps_of_end hend]
    rfl
  · rw [steps_of_result hend]
    rfl

/-- The steps behind some of them are those of the scanner after as many requests. -/
theorem drop_steps {s : Scanner} {i : ℕ} (hi : i < s.steps.length) :
    s.steps.drop i = (s.afterRequests i).steps := by
  induction i generalizing s with
  | zero => rfl
  | succ i ih =>
    by_cases hend : s.nextToken.answer = .ok none
    · simp [steps_of_end hend] at hi
    · rw [steps_of_result hend, List.length_cons] at hi
      rw [steps_of_result hend, List.drop_succ_cons, ih (by omega)]
      rfl

/-- Every step is that of a request for a token, behind as many requests as there are steps
before. -/
theorem eq_step_of_getElem? {s : Scanner} {i : ℕ} {step : Step} (hstep : s.steps[i]? = some step) :
    step = (s.afterRequests i).nextToken.step := by
  obtain ⟨hi, -⟩ := List.getElem?_eq_some_iff.mp hstep
  have hfirst : (s.steps.drop i)[0]? = some step := by simpa using hstep
  rw [drop_steps hi, steps_zero] at hfirst
  exact (Option.some.inj hfirst).symm

end Scanner

end Lexis
