import Mathlib.Algebra.Order.Ring.Nat
import Lexis.Number.Rounding
import Lexis.Number.Shortest

/-!
# The bits of a rounded integer

`Binary64.ofNat` rounds the significand of an integer and packs the bits. Here are the bounds that
the significand keeps to, and what the bits stand for: an integer again, or infinity.
-/

namespace Lexis

/-- Rounding to whole units changes nothing. -/
theorem roundHalfEven_zero (n : ℕ) : roundHalfEven n 0 = n := by
  simp [roundHalfEven, Nat.mod_one]

/-- Rounding adds at most one unit to the quotient. -/
theorem roundHalfEven_bounds (n k : ℕ) :
    n / 2 ^ k ≤ roundHalfEven n k ∧ roundHalfEven n k ≤ n / 2 ^ k + 1 := by
  simp only [roundHalfEven, Nat.pow_eq]
  split <;> omega

namespace Binary64

/-- The bits of a double without a sign are its two fields. -/
theorem toNat_bits_eq {x : Binary64} (hsign : x.isNegative = false) :
    x.bits.toNat = x.exponentField * 2 ^ 52 + x.fractionField := by
  have hword : x.bits.toNat < 2 ^ 64 := x.bits.toNat_lt
  simp only [isNegative, exponentField, fractionField, Nat.pow_eq, beq_eq_false_iff_ne] at *
  omega

/-- The exponent field of a finite double is not the greatest one. -/
theorem exponentField_lt {x : Binary64} (hfinite : x.isFinite = true) :
    x.exponentField < 2047 := by
  have hfield : x.exponentField < 2 ^ 11 := Nat.mod_lt _ (by decide)
  have hne : x.exponentField ≠ 2047 := by simpa [isFinite] using hfinite
  omega

/-- The fraction field has 52 bits. -/
theorem fractionField_lt (x : Binary64) : x.fractionField < 2 ^ 52 :=
  Nat.mod_lt _ (by decide)

/-- The significand of an integer below `2 ^ 53` is exact, and it has 53 bits. -/
theorem scaledSignificand_of_le {n : ℕ} (hn : n ≠ 0) (he : n.log2 ≤ 52) :
    scaledSignificand n n.log2 = n * 2 ^ (52 - n.log2) ∧
      2 ^ 52 ≤ scaledSignificand n n.log2 ∧ scaledSignificand n n.log2 < 2 ^ 53 := by
  have hlow : 2 ^ n.log2 ≤ n := Nat.log2_self_le hn
  have hhigh : n < 2 ^ (n.log2 + 1) := Nat.lt_log2_self
  have hexact : scaledSignificand n n.log2 = n * 2 ^ (52 - n.log2) := by
    simp only [scaledSignificand, if_pos he, Nat.pow_eq]
  have hscale : 2 ^ n.log2 * 2 ^ (52 - n.log2) = 2 ^ 52 := by
    rw [← Nat.pow_add]
    congr 1
    omega
  have hleast : 2 ^ n.log2 * 2 ^ (52 - n.log2) ≤ n * 2 ^ (52 - n.log2) :=
    Nat.mul_le_mul_right _ hlow
  have hmost : n * 2 ^ (52 - n.log2) < 2 ^ (n.log2 + 1) * 2 ^ (52 - n.log2) :=
    Nat.mul_lt_mul_of_pos_right hhigh (Nat.two_pow_pos _)
  rw [Nat.pow_succ, Nat.mul_right_comm] at hmost
  omega

/-- From `2 ^ 52` on the significand is rounded to whole units. -/
theorem scaledSignificand_of_ge {n k : ℕ} (hlog : n.log2 = 52 + k) :
    scaledSignificand n n.log2 = roundHalfEven n k := by
  rw [hlog]
  cases k with
  | zero =>
    rw [roundHalfEven_zero]
    exact Nat.mul_one n
  | succ k =>
    simp only [scaledSignificand, if_neg (show ¬52 + (k + 1) ≤ 52 by omega)]
    rw [Nat.add_sub_cancel_left]

/-- From its leading bit on, the significand of an integer has 53 bits, which rounding may carry
over. -/
theorem scaledSignificand_bounds {n : ℕ} (hn : n ≠ 0) :
    2 ^ 52 ≤ scaledSignificand n n.log2 ∧ scaledSignificand n n.log2 ≤ 2 ^ 53 := by
  by_cases he : n.log2 ≤ 52
  · obtain ⟨_, hleast, hmost⟩ := scaledSignificand_of_le hn he
    exact ⟨hleast, Nat.le_of_lt hmost⟩
  · have hleast : 2 ^ 52 ≤ n / 2 ^ (n.log2 - 52) := by
      rw [Nat.le_div_iff_mul_le (Nat.two_pow_pos _), ← Nat.pow_add]
      exact Nat.le_trans (Nat.pow_le_pow_right (by decide) (by omega)) (Nat.log2_self_le hn)
    have hmost : n / 2 ^ (n.log2 - 52) < 2 ^ 53 := by
      rw [Nat.div_lt_iff_lt_mul (Nat.two_pow_pos _), ← Nat.pow_add]
      exact Nat.lt_of_lt_of_le Nat.lt_log2_self (Nat.pow_le_pow_right (by decide) (by omega))
    have hround := roundHalfEven_bounds n (n.log2 - 52)
    simp only [scaledSignificand, if_neg he]
    omega

/-- The bits of a rounded positive integer: they grow up to those of infinity. -/
theorem toNat_bits_ofNat {n : ℕ} (hn : n ≠ 0) :
    (ofNat n).bits.toNat =
      min ((n.log2 + 1022) * 2 ^ 52 + scaledSignificand n n.log2) (2047 * 2 ^ 52) := by
  have hinfinity : infinity.bits.toNat = 2047 * 2 ^ 52 := by decide
  have hsmall : min ((n.log2 + 1022) * 2 ^ 52 + scaledSignificand n n.log2) (2047 * 2 ^ 52) <
      UInt64.size := Nat.lt_of_le_of_lt (Nat.min_le_right _ _) (by decide)
  simp only [ofNat, if_neg hn, hinfinity, Nat.pow_eq]
  exact UInt64.toNat_ofNat_of_lt' hsmall

/-- A finite double stands, but for its sign, for the integer `n`. -/
def HasMagnitude (x : Binary64) (n : ℕ) : Prop :=
  x.significand * Nat.pow 2 x.exponent.toNat = n * Nat.pow 2 (-x.exponent).toNat

instance (x : Binary64) (n : ℕ) : Decidable (x.HasMagnitude n) :=
  inferInstanceAs (Decidable (_ = _))

/-- A finite double without a sign that stands for an integer. -/
structure IsInteger (x : Binary64) : Prop where
  /-- The double is neither infinite nor undefined. -/
  finite : x.isFinite = true
  /-- There is no sign, not even on zero. -/
  unsigned : x.isNegative = false
  /-- The double stands for an integer. -/
  magnitude : ∃ n, x.HasMagnitude n

/-- The double that an integer rounds to is an integer again, unless it is infinite. -/
theorem isInteger_or_infinity (n : ℕ) : (ofNat n).IsInteger ∨ ofNat n = infinity := by
  by_cases hn : n = 0
  · subst hn
    have hsignificand : (ofNat 0).significand = 0 := by decide
    exact Or.inl ⟨by decide, by decide, 0, by simp [HasMagnitude, hsignificand]⟩
  have hbits := toNat_bits_ofNat hn
  have hbounds := scaledSignificand_bounds hn
  have hexact := scaledSignificand_of_le hn
  generalize hscaled : scaledSignificand n n.log2 = scaled at *
  generalize n.log2 = e at *
  by_cases hlarge : 2047 * 2 ^ 52 ≤ (e + 1022) * 2 ^ 52 + scaled
  · right
    have hword : (ofNat n).bits.toNat = infinity.bits.toNat := by
      rw [hbits, Nat.min_eq_right hlarge]
      decide
    exact congrArg Binary64.mk (UInt64.toNat_inj.mp hword)
  · left
    rw [Nat.min_eq_left (by omega)] at hbits
    have hsign : (ofNat n).isNegative = false := by
      simp only [isNegative, hbits, Nat.pow_eq, beq_eq_false_iff_ne]
      omega
    have hfields := toNat_bits_eq hsign
    have hfraction := fractionField_lt (ofNat n)
    have hexponent : (ofNat n).exponentField < 2 ^ 11 := Nat.mod_lt _ (by decide)
    have hfinite : (ofNat n).isFinite = true := by
      simp only [isFinite, bne_iff_ne]
      omega
    refine ⟨hfinite, hsign, ?_⟩
    have hnormal : (ofNat n).exponentField ≠ 0 := by omega
    have hexponent_eq : (ofNat n).exponent = (ofNat n).exponentField - 1075 := by
      simp only [exponent, if_neg hnormal]
    by_cases hwhole : 1075 ≤ (ofNat n).exponentField
    · have hzero : (-(ofNat n).exponent).toNat = 0 := by omega
      exact ⟨_, by rw [HasMagnitude, hzero]; exact (Nat.mul_one _).symm⟩
    · have hscale : (-(ofNat n).exponent).toNat = 52 - e := by omega
      have hzero : (ofNat n).exponent.toNat = 0 := by omega
      have hsignificand : (ofNat n).significand = scaled := by
        simp only [significand, if_neg hnormal, Nat.pow_eq]
        omega
      refine ⟨n, ?_⟩
      rw [HasMagnitude, hscale, hzero, hsignificand, (hexact (by omega)).1]
      exact Nat.mul_one _

end Binary64

end Lexis
