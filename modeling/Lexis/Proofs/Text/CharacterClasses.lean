import Mathlib.Tactic.ByContra
import Lexis.Text.LexicalClass

/-!
# How the classes of characters lie to each other

The quotation mark, the digits, the characters that begin a name and those that begin a symbol
overlap only in that the quotation mark also begins symbols. What remains besides white space is
the full stop and the decimal digits of other scripts: a run that begins with one of them is no
token.
-/

namespace Lexis.Text

/-- The digits are the code points from 48 to 57. -/
theorem toNat_mem_of_isDigit {c : Char} (hc : isDigit c = true) :
    c.toNat ∈ List.range' 48 10 := by
  have hrange : 48 ≤ c.toNat ∧ c.toNat ≤ 57 := Char.isDigit_iff_toNat.mp hc
  simp only [List.mem_range'_1]
  omega

/-- No digit is white space. -/
theorem isWhiteSpace_of_isDigit {c : Char} (hc : isDigit c = true) : isWhiteSpace c = false := by
  have hall : ∀ n ∈ List.range' 48 10, whiteSpaceTree.contains n = false := by decide +kernel
  exact hall _ (toNat_mem_of_isDigit hc)

/-- No name begins with a digit. -/
theorem isDigit_of_isNameStart {c : Char} (hc : isNameStart c = true) : isDigit c = false := by
  have hall : ∀ n ∈ List.range' 48 10, alphabeticTree.contains n = false := by decide +kernel
  by_contra hdigit
  have hname : isNameStart c = false := hall _ (toNat_mem_of_isDigit (by simpa using hdigit))
  rw [hname] at hc
  cases hc

/-- The digits are decimal digits of their script. -/
theorem isDecimalDigit_of_isDigit {c : Char} (hc : isDigit c = true) :
    isDecimalDigit c = true := by
  have hall : ∀ n ∈ List.range' 48 10, decimalDigitTree.contains n = true := by decide +kernel
  exact hall _ (toNat_mem_of_isDigit hc)

/-- Below 128 there are no decimal digits but the digits. -/
theorem isDigit_of_isDecimalDigit {c : Char} (hc : isDecimalDigit c = true)
    (hascii : c.toNat < 128) : isDigit c = true := by
  have hall : ∀ n < 128, decimalDigitTree.contains n = true → 48 ≤ n ∧ n ≤ 57 := by
    decide +kernel
  exact Char.isDigit_iff_toNat.mpr (hall _ hascii hc)

/-- No symbol begins with a digit. -/
theorem isDigit_of_isSymbolStart {c : Char} (hc : isSymbolStart c = true) : isDigit c = false := by
  by_contra hdigit
  have hdecimal : isDecimalDigit c = true := isDecimalDigit_of_isDigit (by simpa using hdigit)
  simp [isSymbolStart, hdecimal] at hc

/-- No character begins both a symbol and a name. -/
theorem isNameStart_of_isSymbolStart {c : Char} (hc : isSymbolStart c = true) :
    isNameStart c = false := by
  by_contra hname
  have halphabetic : isAlphabetic c = true := by simpa [isNameStart] using hname
  simp [isSymbolStart, halphabetic] at hc

/-- The quotation mark is not white space. -/
@[simp] theorem isWhiteSpace_quoteMark : isWhiteSpace quoteMark = false := by
  decide +kernel

/-- The space is white space. -/
@[simp] theorem isWhiteSpace_blank : isWhiteSpace ' ' = true := by
  decide +kernel

/-- The line feed is white space. -/
@[simp] theorem isWhiteSpace_newline : isWhiteSpace '\n' = true := by
  decide +kernel

/-- No bare run holds a line feed. -/
theorem newline_not_mem {run : List Char} (hrun : ∀ c ∈ run, isBare c = true) : '\n' ∉ run := by
  intro hmem
  have hspace : isBare '\n' = false := by decide +kernel
  have hbare := hrun _ hmem
  rw [hspace] at hbare
  cases hbare

/-- No name begins with a quotation mark. -/
@[simp] theorem isNameStart_quoteMark : isNameStart quoteMark = false := by
  decide +kernel

/-- The quotation mark is not a digit. -/
@[simp] theorem isDigit_quoteMark : isDigit quoteMark = false := by
  decide

/-- A character that begins no token: the full stop, or a decimal digit outside ASCII that is not
alphabetic. -/
def Misfit (c : Char) : Prop :=
  c = '.' ∨ (128 ≤ c.toNat ∧ isAlphabetic c = false ∧ isDecimalDigit c = true)

instance (c : Char) : Decidable (Misfit c) :=
  inferInstanceAs (Decidable (_ ∨ _))

/-- No misfit is a digit. -/
theorem Misfit.isDigit_eq {c : Char} (hc : Misfit c) : isDigit c = false := by
  rcases hc with rfl | ⟨hbig, _, _⟩
  · decide
  · by_contra hdigit
    have hmem := toNat_mem_of_isDigit (by simpa using hdigit)
    simp only [List.mem_range'_1] at hmem
    omega

/-- No misfit is the quotation mark. -/
theorem Misfit.ne_quoteMark {c : Char} (hc : Misfit c) : c ≠ quoteMark := by
  rintro rfl
  exact absurd hc (by decide +kernel)

/-- Characters other than digits are misfits exactly if they begin neither a name nor a symbol. -/
theorem misfit_iff {c : Char} (hdigit : isDigit c = false) :
    Misfit c ↔ isNameStart c = false ∧ isSymbolStart c = false := by
  constructor
  · rintro (rfl | ⟨_, halphabetic, hdecimal⟩)
    · decide +kernel
    · exact ⟨halphabetic, by simp [isSymbolStart, hdecimal]⟩
  · rintro ⟨hname, hsymbol⟩
    have halphabetic : isAlphabetic c = false := hname
    by_cases hstop : c = '.'
    · exact Or.inl hstop
    · have hdecimal : isDecimalDigit c = true := by
        simpa [isSymbolStart, halphabetic, hstop] using hsymbol
      refine Or.inr ⟨?_, halphabetic, hdecimal⟩
      by_contra hsmall
      have h := isDigit_of_isDecimalDigit hdecimal (by omega)
      rw [hdigit] at h
      cases h

end Lexis.Text
