import Lexis.Proofs.Number.Integers

/-!
# Written numbers are told apart

Counts are written with their decimal digits, and integers among the doubles with the digits of
their shortest decimal. Either way the digits give the number back, so different numbers are written
differently. The infinite number is written as a word, which is no run of digits.
-/

namespace Lexis

/-- A count is written with its decimal digits. -/
theorem toList_toString_nat (n : ℕ) : (toString n).toList = Nat.toDigits 10 n := by
  rw [Nat.toString_eq_repr, Nat.toList_repr]

/-- The text of a count consists of digits. -/
theorem isDigit_of_mem_toString_nat {n : ℕ} {c : Char} (h : c ∈ (toString n).toList) :
    c.isDigit = true := by
  rw [toList_toString_nat] at h
  exact Nat.isDigit_of_mem_toDigits (by decide) (by decide) h

/-- The text of a count holds no character but digits. -/
theorem not_mem_toString_nat {n : ℕ} {c : Char} (hc : c.isDigit = false) :
    c ∉ (toString n).toList := by
  intro hmem
  rw [isDigit_of_mem_toString_nat hmem] at hc
  cases hc

/-- Different counts are written differently. -/
theorem toString_nat_inj {m n : ℕ} (h : toString m = toString n) : m = n := by
  have hdigits := congrArg String.toList h
  rw [toList_toString_nat, toList_toString_nat] at hdigits
  have hvalue := congrArg (Nat.ofDigitChars 10 · 0) hdigits
  simpa only [Nat.ofDigitChars_ten_toDigits] using hvalue

/-- Words of 32 bits are counts. -/
theorem toString_uint32_inj {m n : UInt32} (h : toString m = toString n) : m = n :=
  UInt32.toNat_inj.mp (toString_nat_inj h)

namespace Binary64

/-- The infinite number is not written with digits. -/
theorem display_infinity : (Token.number .infinity).display.toList = ['i', 'n', 'f'] := by
  decide

/-- No integer is written like the infinite number. -/
theorem IsInteger.display_ne {x : Binary64} (h : x.IsInteger) :
    (Token.number x).display ≠ (Token.number .infinity).display := by
  obtain ⟨digits, hdisplay, -, hdigits, -⟩ := h.exists_digits
  intro hword
  have hletters := congrArg String.toList hword
  rw [hdisplay, display_infinity, String.toList_ofList] at hletters
  have hletter := hdigits 'i' (by simp [hletters])
  cases hletter

/-- Different doubles that are integers or infinite are written differently. -/
theorem eq_of_display_eq {x y : Binary64} (hx : x.IsInteger ∨ x = .infinity)
    (hy : y.IsInteger ∨ y = .infinity)
    (h : (Token.number x).display = (Token.number y).display) : x = y := by
  rcases hx with hx | rfl <;> rcases hy with hy | rfl
  · obtain ⟨digits, hdisplay, -, -, hvalue⟩ := hx.exists_digits
    obtain ⟨digits', hdisplay', -, -, hvalue'⟩ := hy.exists_digits
    rw [hdisplay, hdisplay'] at h
    rw [← hvalue, ← hvalue', String.ofList_injective h]
  · exact absurd h hx.display_ne
  · exact absurd h.symm hy.display_ne
  · rfl

/-- A double that is an integer or infinite is written on one line. -/
theorem newline_not_mem_display {x : Binary64} (hx : x.IsInteger ∨ x = .infinity) :
    '\n' ∉ (Token.number x).display.toList := by
  rcases hx with hx | rfl
  · obtain ⟨digits, hdisplay, -, hdigits, -⟩ := hx.exists_digits
    rw [hdisplay, String.toList_ofList]
    intro hmem
    have hdigit := hdigits '\n' hmem
    cases hdigit
  · rw [display_infinity]
    decide

end Binary64

end Lexis
