import Lexis.Proofs.Number.IntegerRounding
import Lexis.Proofs.Scanner.Readings

/-!
# Runs of digits are read as rounded integers

A run of digits of any length stands for an integer, and the reader of numbers takes the whole run
and answers with the double that this integer is rounded to. So what is read depends on the integer
only: zeros in front of the run change nothing, and a greater integer is read as a double that is
not less.
-/

namespace Lexis

namespace Scanner

/-- A run of digits lies just ahead of the scanner, and `rest` behind it. -/
structure DigitsAhead (s : Scanner) (digits rest : List Char) : Prop where
  /-- The two make up what is ahead. -/
  ahead : s.cursor.ahead = digits ++ rest
  /-- There is a digit. -/
  nonempty : digits ≠ []
  /-- The run has digits only, and `rest` does not begin with one. -/
  run : Text.IsRun Text.isDigit digits rest

/-- The reader of numbers reads the run as the double `v`. -/
structure ReadsRun (s : Scanner) (digits rest : List Char) (v : Binary64) : Prop where
  /-- The reader answers with the double. -/
  answer : s.readNumber.1 = .ok (.number v)
  /-- The reader moves over the run. -/
  cursor : s.readNumber.2.cursor = s.cursor.advance digits.length
  /-- The reader leaves the rest ahead. -/
  rest : s.readNumber.2.cursor.ahead = rest
  /-- The integer that the run stands for is rounded to the double. -/
  rounded : v.RoundedFrom (Nat.ofDigitChars 10 digits 0)
  /-- Up to `2 ^ 53` the double is the integer. -/
  exact : Nat.ofDigitChars 10 digits 0 ≤ 2 ^ 53 →
    v.isFinite = true ∧ v.magnitude = Nat.ofDigitChars 10 digits 0
  /-- Wherever the run is read with zeros in front of it, it is read as the same double. -/
  zeros : ∀ (t : Scanner) (count : ℕ) (behind : List Char),
    t.DigitsAhead (List.replicate count '0' ++ digits) behind →
    t.readNumber.1 = .ok (.number v)
  /-- Wherever a run that stands for an integer that is not less is read, the double is not
  less. -/
  monotone : ∀ (t : Scanner) (greater behind : List Char) (w : Binary64),
    t.DigitsAhead greater behind → t.readNumber.1 = .ok (.number w) →
    Nat.ofDigitChars 10 digits 0 ≤ Nat.ofDigitChars 10 greater 0 → v.AtMost w

/-- The reader of numbers takes a whole run of digits and rounds the integer that the run stands
for. -/
theorem DigitsAhead.readNumber_eq {s : Scanner} {digits rest : List Char}
    (h : s.DigitsAhead digits rest) :
    s.readNumber =
      (.ok (.number (.ofNat (Nat.ofDigitChars 10 digits 0))), s.take digits.length digits) := by
  obtain ⟨first, others, rfl⟩ := List.exists_cons_of_ne_nil h.nonempty
  have htake : s.cursor.ahead.takeWhile Text.isDigit = first :: others := by
    rw [h.ahead, h.run.takeWhile_eq]
  rw [readNumber_of_digit h.ahead (h.run.inside first List.mem_cons_self), htake]

/-- Zeros in front of a run do not change the integer that it stands for. -/
theorem ofDigitChars_zeros (count : ℕ) (digits : List Char) :
    Nat.ofDigitChars 10 (List.replicate count '0' ++ digits) 0 = Nat.ofDigitChars 10 digits 0 := by
  rw [Nat.ofDigitChars_append, Nat.ofDigitChars_replicate_zero, Nat.mul_zero]

/-- A run of digits of any length is read as a whole, as the double that its integer is rounded
to. -/
theorem readNumber_rounds {s : Scanner} {digits rest : List Char}
    (h : s.DigitsAhead digits rest) : ∃ v, s.ReadsRun digits rest v := by
  have hread := h.readNumber_eq
  refine ⟨.ofNat (Nat.ofDigitChars 10 digits 0), ?_⟩
  constructor
  case answer => rw [hread]
  case cursor =>
    rw [hread]
    rfl
  case rest => simp [hread, h.ahead]
  case rounded => exact Binary64.roundedFrom_ofNat _
  case exact => exact Binary64.magnitude_ofNat
  case zeros =>
    intro t count behind ht
    rw [ht.readNumber_eq, ofDigitChars_zeros]
  case monotone =>
    intro t greater behind w ht hw hle
    rw [ht.readNumber_eq] at hw
    obtain rfl : .ofNat (Nat.ofDigitChars 10 greater 0) = w := by simpa using hw
    exact Binary64.atMost_ofNat hle

/-- The integer half way between two doubles is read as the even one of them, also if letters
follow. -/
theorem readNumber_rounds_tie :
    (ofSource "9007199254740993em").DigitsAhead "9007199254740993".toList ['e', 'm'] ∧
      ∃ v, (ofSource "9007199254740993em").ReadsRun "9007199254740993".toList ['e', 'm'] v := by
  have h : (ofSource "9007199254740993em").DigitsAhead "9007199254740993".toList ['e', 'm'] :=
    ⟨rfl, by decide, by decide⟩
  exact ⟨h, readNumber_rounds h⟩

end Scanner

end Lexis
