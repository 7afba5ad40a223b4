import Lexis.Number.Numeral
import Lexis.Proofs.Number.IntegerRounding
import Lexis.Token

/-!
# Integers read back what is written

The search for a shortest decimal only ends at decimals of the rounding interval, and for an integer
it ends before the digits behind the point. So the text form of an integer is a run of digits, and
the integer that this run stands for rounds to the double that was written.
-/

namespace Lexis

namespace Binary64

/-- The shortest decimal of a positive integer has no digits behind the point. -/
theorem exists_shortest {x : Binary64} {n : ℕ} (tie : Tie) (hvalue : x.HasMagnitude n)
    (hsignificand : x.significand ≠ 0) :
    ∃ digits zeros : ℕ, x.shortest tie = ⟨digits, zeros⟩ := by
  generalize hi : RoundingInterval.ofBinary64 x = i
  have hmiddle : i.middle = n * i.unit := by
    rw [← hi]
    simp only [RoundingInterval.ofBinary64]
    rw [Nat.mul_assoc, hvalue, Nat.mul_left_comm]
  have hunit : 0 < i.unit := by
    rw [← hi]
    exact Nat.mul_pos (by decide) (Nat.two_pow_pos _)
  have hfloor : i.floorAt 0 = n := by
    simp [RoundingInterval.floorAt, hmiddle, hunit]
  have hexact : i.contains ⟨i.floorAt 0, 0⟩ = true := by
    rw [← hi] at hmiddle ⊢
    refine RoundingInterval.contains_of_eq hsignificand ?_
    rw [hi, hfloor]
    simpa [Decimal.numerator, Decimal.denominator, hi] using hmiddle.symm
  have hn : n ≠ 0 := by
    rintro rfl
    have hpos : 0 < x.significand * 2 ^ x.exponent.toNat :=
      Nat.mul_pos (Nat.pos_of_ne_zero hsignificand) (Nat.two_pow_pos _)
    rw [HasMagnitude, Nat.pow_eq, Nat.zero_mul] at hvalue
    omega
  have hmagnitude : 0 ≤ i.magnitude := by
    have hle : i.unit ≤ i.middle := by
      rw [hmiddle]
      exact Nat.le_mul_of_pos_left _ (Nat.pos_of_ne_zero hn)
    rw [RoundingInterval.magnitude, if_pos hle]
    omega
  have hgrids : i.magnitude - 0 < (i.magnitude + 1075).toNat := by omega
  obtain ⟨d, hsearch, hexponent⟩ :=
    RoundingInterval.exists_search hmagnitude hgrids (RoundingInterval.exists_closestAt tie hexact)
  obtain ⟨digits, exponent⟩ := d
  obtain ⟨zeros, rfl⟩ := Int.eq_ofNat_of_zero_le hexponent
  refine ⟨digits, zeros, ?_⟩
  simp only [shortest, if_neg hsignificand, hi, hsearch, Option.getD_some]

/-- The shortest decimal of an integer is an integer, written without needless zeros, and it rounds
to the double. -/
theorem IsInteger.exists_decimal (tie : Tie) {x : Binary64} (h : x.IsInteger) :
    ∃ digits zeros : ℕ, x.shortest tie = ⟨digits, zeros⟩ ∧ (digits ≠ 0 ∨ zeros = 0) ∧
      ofNat (digits * 10 ^ zeros) = x := by
  have hread := readFrom_shortest tie h.finite
  rw [h.unsigned] at hread
  obtain ⟨digits, zeros, hshortest, hdigits⟩ : ∃ digits zeros : ℕ,
      x.shortest tie = ⟨digits, zeros⟩ ∧ (digits ≠ 0 ∨ zeros = 0) := by
    by_cases hzero : x.significand = 0
    · exact ⟨0, 0, by simp [shortest, hzero], Or.inr rfl⟩
    · obtain ⟨-, -, n, hvalue⟩ := h
      obtain ⟨digits, zeros, hshortest⟩ := exists_shortest tie hvalue hzero
      have hdigits := digits_shortest_ne_zero tie hzero
      rw [hshortest] at hdigits
      exact ⟨digits, zeros, hshortest, Or.inl hdigits⟩
  refine ⟨digits, zeros, hshortest, hdigits, ofNat_eq_of_readFrom ?_⟩
  have hvalue : (Decimal.mk digits zeros).value = (digits * 10 ^ zeros : ℕ) := by
    simp [Decimal.value]
  rwa [hshortest, hvalue] at hread

/-- A finite double is written as the layout of its shortest decimal behind its sign. -/
theorem write_of_finite (style : NumeralStyle) {x : Binary64} (hfinite : x.isFinite = true) :
    style.write x = (if x.isNegative then "-" else "") ++
      String.ofList (style.layout (x.shortest style.tie)) := by
  have hfield := exponentField_lt hfinite
  have hnan : x.isNaN = false := by simp [isNaN]; omega
  have hinfinite : x.isInfinite = false := by simp [isInfinite]; omega
  simp [NumeralStyle.write, hnan, hinfinite]

/-- Without a sign only the layout is written. -/
theorem write_of_unsigned (style : NumeralStyle) {x : Binary64} (hfinite : x.isFinite = true)
    (hsign : x.isNegative = false) :
    style.write x = String.ofList (style.layout (x.shortest style.tie)) := by
  simp [write_of_finite style hfinite, hsign]

/-- The text form of an integer is a run of digits, and the run reads back as the same double. -/
theorem IsInteger.exists_digits {x : Binary64} (h : x.IsInteger) :
    ∃ digits : List Char, (Token.number x).display = String.ofList digits ∧ digits ≠ [] ∧
      (∀ c ∈ digits, c.isDigit = true) ∧ ofNat (Nat.ofDigitChars 10 digits 0) = x := by
  obtain ⟨digits, zeros, hshortest, -, hround⟩ := h.exists_decimal .up
  have hdisplay : (Token.number x).display =
      String.ofList (Token.numeral.layout (x.shortest .up)) :=
    write_of_unsigned Token.numeral h.finite h.unsigned
  have hlayout : Token.numeral.layout ⟨digits, zeros⟩ =
      Nat.toDigits 10 digits ++ List.replicate zeros '0' := by
    simp [NumeralStyle.layout, Token.numeral]
  refine ⟨_, hdisplay, ?_, ?_, ?_⟩
  · rw [hshortest, hlayout]
    simp [Nat.toDigits_ne_nil]
  · rw [hshortest, hlayout]
    intro c hc
    rcases List.mem_append.mp hc with hdigit | hzero
    · exact Nat.isDigit_of_mem_toDigits (by decide) (by decide) hdigit
    · rw [List.eq_of_mem_replicate hzero]
      rfl
  · rw [hshortest, hlayout, Nat.ofDigitChars_append,
      Nat.ofDigitChars_toDigits (by decide) (by decide), Nat.ofDigitChars_replicate_zero,
      Nat.mul_comm]
    exact hround

end Binary64

end Lexis
