import Mathlib.Algebra.Order.Field.Basic
import Mathlib.Data.Rat.Cast.Order
import Mathlib.Order.Monotone.Basic
import Mathlib.Tactic.FieldSimp
import Mathlib.Tactic.Linarith
import Mathlib.Tactic.Positivity
import Mathlib.Tactic.Ring
import Lexis.Proofs.Number.Rounding
import Lexis.Proofs.Number.Search

/-!
# The double nearest to a number

A number is read as the finite double nearest to it, halves to the even significand. The bits of
the doubles without a sign count the rungs of a ladder: the higher the rung, the greater the double.
So only the rungs just below and just above must be compared with a double to see which numbers
are read as it, and these are the numbers of its rounding interval. No two doubles are read from one
number, and the shortest decimal of a double is read as the double.
-/

namespace Lexis

/-- The number that a decimal stands for. -/
def Decimal.value (d : Decimal) : ℚ :=
  d.digits * 10 ^ d.exponent

namespace Binary64

/-- The number that a finite double stands for, but for its sign. -/
def magnitude (x : Binary64) : ℚ :=
  x.significand * 2 ^ x.exponent

/-- A number, given by its sign and its magnitude, is read as the double `x`. -/
structure ReadFrom (x : Binary64) (negative : Bool) (q : ℚ) : Prop where
  /-- The double is finite. -/
  finite : x.isFinite = true
  /-- The double has the sign of the number, also if it is zero. -/
  sign : x.isNegative = negative
  /-- The number is not so great that it is read as infinite. -/
  bounded : q < 2 ^ 1024 - 2 ^ 970
  /-- No finite double is nearer. -/
  nearest : ∀ y : Binary64, y.isFinite = true → |q - x.magnitude| ≤ |q - y.magnitude|
  /-- If another one is equally near, the significand is even. -/
  even : ∀ y : Binary64, y.isFinite = true → |q - x.magnitude| = |q - y.magnitude| →
    y.magnitude ≠ x.magnitude → x.significand % 2 = 0

/-- The bits of a double but for its sign. -/
def rank (x : Binary64) : ℕ :=
  x.exponentField * 2 ^ 52 + x.fractionField

/-- The magnitude of the doubles of a rank, in units of the least positive one. -/
def rung (r : ℕ) : ℕ :=
  (if r < 2 ^ 52 then r else 2 ^ 52 + r % 2 ^ 52) * 2 ^ (r / 2 ^ 52 - 1)

/-- One rung is above the other by one unit of the significand. -/
theorem rung_succ (r : ℕ) : rung (r + 1) = rung r + 2 ^ (r / 2 ^ 52 - 1) := by
  by_cases hcarry : (r + 1) % 2 ^ 52 = 0
  · by_cases hsmall : r < 2 ^ 52
    · have hr : r = 2 ^ 52 - 1 := by omega
      subst hr
      decide +kernel
    · obtain ⟨k, hk⟩ : ∃ k, r / 2 ^ 52 = k + 1 := ⟨r / 2 ^ 52 - 1, by omega⟩
      have hnext : (r + 1) / 2 ^ 52 = k + 1 + 1 := by omega
      have hlast : r % 2 ^ 52 = 2 ^ 52 - 1 := by omega
      have hpower : 2 ^ (k + 1) = 2 ^ k * 2 := pow_succ 2 k
      simp only [rung, hcarry, hk, hnext, hlast, if_neg hsmall,
        if_neg (show ¬r + 1 < 2 ^ 52 by omega), Nat.add_sub_cancel]
      omega
  · have hsame : (r + 1) / 2 ^ 52 = r / 2 ^ 52 := by omega
    have hunit : (if r + 1 < 2 ^ 52 then r + 1 else 2 ^ 52 + (r + 1) % 2 ^ 52) =
        (if r < 2 ^ 52 then r else 2 ^ 52 + r % 2 ^ 52) + 1 := by
      split <;> split <;> omega
    simp only [rung, hsame, hunit, Nat.add_mul, Nat.one_mul]

/-- The magnitude of the doubles of a rank. -/
def ladder (r : ℕ) : ℚ :=
  rung r / 2 ^ 1074

/-- The higher the rank, the greater the magnitude. -/
theorem ladder_strictMono : StrictMono ladder := by
  refine strictMono_nat_of_lt_succ fun r => ?_
  have hrung : rung r < rung (r + 1) := by
    rw [rung_succ]
    exact Nat.lt_add_of_pos_right (Nat.two_pow_pos _)
  exact div_lt_div_of_pos_right (Nat.cast_lt.mpr hrung) (by positivity)

/-- The significand counts units of the least positive double, scaled by the exponent field. -/
theorem rung_rank (x : Binary64) : rung x.rank = x.significand * 2 ^ (x.exponentField - 1) := by
  have hfraction := fractionField_lt x
  have hfield : x.rank / 2 ^ 52 = x.exponentField := by
    simp only [rank]
    omega
  have hrest : x.rank % 2 ^ 52 = x.fractionField := by
    simp only [rank]
    omega
  have hsmall : x.rank < 2 ^ 52 ↔ x.exponentField = 0 := by
    simp only [rank]
    omega
  simp only [rung, hfield, hrest, hsmall, significand, Nat.pow_eq]
  split
  · next hzero => simp [rank, hzero]
  · rfl

/-- The exponent is that of the least positive double, raised by the exponent field. -/
theorem exponent_eq (x : Binary64) : x.exponent = ((x.exponentField - 1 : ℕ) : ℤ) - 1074 := by
  simp only [exponent]
  split <;> omega

/-- The rung above that of a double is one unit of the significand higher. -/
theorem rung_rank_succ (x : Binary64) :
    rung (x.rank + 1) = rung x.rank + 2 ^ (x.exponentField - 1) := by
  have hfraction := fractionField_lt x
  rw [rung_succ, show x.rank / 2 ^ 52 = x.exponentField by simp only [rank]; omega]

/-- The power of two by which the significand is scaled, over the least positive double. -/
theorem scale_eq (x : Binary64) : 2 ^ x.exponent.toNat * 2 ^ 1074 =
    2 ^ (x.exponentField - 1) * 2 ^ (-x.exponent).toNat := by
  have hexponent := x.exponent_eq
  rw [← pow_add, ← pow_add]
  congr 1
  omega

/-- The magnitude of a double is that of its rank. -/
theorem magnitude_eq_ladder (x : Binary64) : x.magnitude = ladder x.rank := by
  rw [magnitude, ladder, rung_rank, exponent_eq, zpow_sub₀ two_ne_zero, zpow_natCast, zpow_ofNat,
    Nat.cast_mul, Nat.cast_pow, Nat.cast_ofNat, mul_div_assoc]

/-- The significand is odd for every second rank. -/
theorem significand_mod_two (x : Binary64) : x.significand % 2 = x.rank % 2 := by
  simp only [significand, rank, Nat.pow_eq]
  split <;> omega

/-- Only the zeros have the lowest rank. -/
theorem significand_eq_zero_iff (x : Binary64) : x.significand = 0 ↔ x.rank = 0 := by
  simp only [significand, rank, Nat.pow_eq]
  split <;> omega

/-- The rank of a finite double is below that of infinity. -/
theorem rank_lt {x : Binary64} (hfinite : x.isFinite = true) : x.rank < 2047 * 2 ^ 52 := by
  have hfield := exponentField_lt hfinite
  have hfraction := fractionField_lt x
  simp only [rank]
  omega

/-- Every rank below that of infinity is the rank of a finite double. -/
theorem exists_rank {r : ℕ} (hr : r < 2047 * 2 ^ 52) :
    ∃ x : Binary64, x.isFinite = true ∧ x.rank = r := by
  have hword : (UInt64.ofNat r).toNat = r := UInt64.toNat_ofNat_of_lt' (by
    have hsize : UInt64.size = 2 ^ 64 := rfl
    omega)
  refine ⟨⟨UInt64.ofNat r⟩, ?_, ?_⟩
  · simp only [isFinite, exponentField, hword, Nat.pow_eq, bne_iff_ne]
    omega
  · simp only [rank, exponentField, fractionField, hword, Nat.pow_eq]
    omega

/-- A double is determined by its rank and its sign. -/
theorem eq_of_rank_eq {x y : Binary64} (hrank : x.rank = y.rank)
    (hsign : x.isNegative = y.isNegative) : x = y := by
  have hx : x.bits.toNat < 2 ^ 64 := x.bits.toNat_lt
  have hy : y.bits.toNat < 2 ^ 64 := y.bits.toNat_lt
  have hword : x.bits.toNat = y.bits.toNat := by
    simp only [rank, exponentField, fractionField, isNegative, Nat.pow_eq] at hrank hsign
    rw [Bool.eq_iff_iff, beq_iff_eq, beq_iff_eq] at hsign
    omega
  exact congrArg Binary64.mk (UInt64.toNat_inj.mp hword)

/-- One number is read as one double only: two equally near doubles of different magnitude would be
neighbours, and then one of them has an odd significand. -/
theorem ReadFrom.unique {x y : Binary64} {negative : Bool} {q : ℚ} (hx : x.ReadFrom negative q)
    (hy : y.ReadFrom negative q) : x = y := by
  suffices h : ∀ x y : Binary64, x.ReadFrom negative q → y.ReadFrom negative q →
      ¬x.rank < y.rank by
    have hxy := h x y hx hy
    have hyx := h y x hy hx
    exact eq_of_rank_eq (by omega) (hx.sign.trans hy.sign.symm)
  intro x y hx hy hrank
  have hless : x.magnitude < y.magnitude := by
    rw [magnitude_eq_ladder, magnitude_eq_ladder]
    exact ladder_strictMono hrank
  have hdistance : |q - x.magnitude| = |q - y.magnitude| :=
    le_antisymm (hx.nearest y hy.finite) (hy.nearest x hx.finite)
  -- The number is half way between the two.
  have hhalf : q - x.magnitude = y.magnitude - q := by
    rcases abs_eq_abs.mp hdistance with h | h <;> linarith
  have hneighbours : y.rank = x.rank + 1 := by
    by_contra hne
    obtain ⟨z, hfinite, hz⟩ := exists_rank (r := x.rank + 1)
      (by have := rank_lt hy.finite; omega)
    have hxz : x.magnitude < z.magnitude := by
      rw [magnitude_eq_ladder, magnitude_eq_ladder]
      exact ladder_strictMono (by omega)
    have hzy : z.magnitude < y.magnitude := by
      rw [magnitude_eq_ladder, magnitude_eq_ladder]
      exact ladder_strictMono (by omega)
    have hnearest := hx.nearest z hfinite
    rw [abs_of_pos (show 0 < q - x.magnitude by linarith)] at hnearest
    rcases le_abs.mp hnearest with h | h <;> linarith
  have hevenx := hx.even y hy.finite hdistance hless.ne'
  have heveny := hy.even x hx.finite hdistance.symm hless.ne
  rw [significand_mod_two] at hevenx heveny
  omega

end Binary64

/-- A decimal is a fraction. -/
theorem Decimal.value_eq (d : Decimal) : d.value = d.numerator / d.denominator := by
  obtain ⟨digits, exponent⟩ := d
  simp only [value, numerator, denominator, Nat.pow_eq]
  rcases Int.le_total 0 exponent with h | h
  · obtain ⟨k, rfl⟩ := Int.eq_ofNat_of_zero_le h
    simp
  · obtain ⟨k, hk⟩ := Int.eq_ofNat_of_zero_le (Int.neg_nonneg_of_nonpos h)
    obtain rfl : exponent = -k := by omega
    simp [div_eq_mul_inv]

namespace RoundingInterval

variable {x : Binary64} {d : Decimal}

/-- The lower bound of the rounding interval lies half a step below the double. At a power of two
the step down is only half as long as the step up. -/
theorem exists_gap (hsignificand : x.significand ≠ 0) :
    ∃ gap, (ofBinary64 x).low = (4 * x.significand - gap) * 2 ^ x.exponent.toNat ∧
      gap ≤ 4 * x.significand ∧
      gap * 2 ^ (x.exponentField - 1) + 2 * Binary64.rung (x.rank - 1) =
        2 * Binary64.rung x.rank := by
  have hfraction := Binary64.fractionField_lt x
  have hrank : x.rank = x.exponentField * 2 ^ 52 + x.fractionField := rfl
  have hpositive : x.rank ≠ 0 := fun hzero => hsignificand (x.significand_eq_zero_iff.mpr hzero)
  have hbelow := Binary64.rung_succ (x.rank - 1)
  rw [Nat.sub_add_cancel (Nat.pos_of_ne_zero hpositive)] at hbelow
  by_cases hpower : x.fractionField = 0 ∧ 1 < x.exponentField
  · obtain ⟨k, hk⟩ : ∃ k, x.exponentField = k + 2 := ⟨x.exponentField - 2, by omega⟩
    refine ⟨1, by simp [ofBinary64, hpower], by omega, ?_⟩
    have hdouble : 2 ^ (k + 1) = 2 ^ k * 2 := pow_succ 2 k
    rw [show (x.rank - 1) / 2 ^ 52 - 1 = k by omega] at hbelow
    rw [show x.exponentField - 1 = k + 1 by omega]
    omega
  · refine ⟨2, by simp only [ofBinary64, if_neg hpower, Nat.pow_eq], by omega, ?_⟩
    rw [show (x.rank - 1) / 2 ^ 52 - 1 = x.exponentField - 1 by omega] at hbelow
    omega

/-- The bounds of the rounding interval of a positive double, in units of the least one: each is
half way to the next rung. -/
theorem scaled_bounds (hsignificand : x.significand ≠ 0) :
    (ofBinary64 x).low * (2 ^ 1074 * 2) =
        (Binary64.rung (x.rank - 1) + Binary64.rung x.rank) * (ofBinary64 x).unit ∧
      (ofBinary64 x).high * (2 ^ 1074 * 2) =
        (Binary64.rung x.rank + Binary64.rung (x.rank + 1)) * (ofBinary64 x).unit := by
  obtain ⟨gap, hlow, hgap, hbelow⟩ := exists_gap hsignificand
  have hscale := x.scale_eq
  have habove := x.rung_rank_succ
  have hhere := x.rung_rank
  have hunit : (ofBinary64 x).unit = 4 * 2 ^ (-x.exponent).toNat := rfl
  have hhigh : (ofBinary64 x).high = (4 * x.significand + 2) * 2 ^ x.exponent.toNat := rfl
  rw [hlow, hunit, hhigh, habove]
  generalize 2 ^ x.exponent.toNat = a at *
  generalize 2 ^ 1074 = b at *
  generalize 2 ^ (x.exponentField - 1) = c at *
  generalize 2 ^ (-x.exponent).toNat = d at *
  constructor
  · obtain ⟨rest, hrest⟩ := Nat.exists_eq_add_of_le hgap
    have hproduct : gap * c + rest * c = 4 * Binary64.rung x.rank := by
      rw [← Nat.add_mul, ← hrest, Nat.mul_assoc, hhere]
    have hsum : rest * c = 2 * (Binary64.rung (x.rank - 1) + Binary64.rung x.rank) := by omega
    rw [hrest, Nat.add_sub_cancel_left]
    calc rest * a * (b * 2) = 2 * rest * (a * b) := by ring
      _ = 2 * (rest * c) * d := by rw [hscale]; ring
      _ = (Binary64.rung (x.rank - 1) + Binary64.rung x.rank) * (4 * d) := by rw [hsum]; ring
  · calc (4 * x.significand + 2) * a * (b * 2) = (8 * x.significand + 4) * (a * b) := by ring
      _ = (8 * x.significand + 4) * (c * d) := by rw [hscale]
      _ = (Binary64.rung x.rank + (Binary64.rung x.rank + c)) * (4 * d) := by rw [hhere]; ring

/-- The bounds of the rounding interval of a positive double are half way from its magnitude to the
next ones. -/
theorem bounds_eq (hsignificand : x.significand ≠ 0) :
    ((ofBinary64 x).low : ℚ) / (ofBinary64 x).unit =
        (Binary64.ladder (x.rank - 1) + Binary64.ladder x.rank) / 2 ∧
      ((ofBinary64 x).high : ℚ) / (ofBinary64 x).unit =
        (Binary64.ladder x.rank + Binary64.ladder (x.rank + 1)) / 2 := by
  have hunit : ((ofBinary64 x).unit : ℚ) ≠ 0 := by simp [ofBinary64]
  have hscale : (2 ^ 1074 * 2 : ℚ) ≠ 0 := by positivity
  obtain ⟨hlow, hhigh⟩ := scaled_bounds hsignificand
  have hlow := congrArg (Nat.cast (R := ℚ)) hlow
  have hhigh := congrArg (Nat.cast (R := ℚ)) hhigh
  simp only [Nat.cast_mul, Nat.cast_add, Nat.cast_pow, Nat.cast_ofNat] at hlow hhigh
  simp only [Binary64.ladder, ← add_div, div_div]
  exact ⟨(div_eq_div_iff hunit hscale).mpr hlow, (div_eq_div_iff hunit hscale).mpr hhigh⟩

/-- A decimal of the rounding interval lies no farther from the double than half way to the next
magnitudes, and not as far if the significand is odd. -/
theorem value_bounds (hsignificand : x.significand ≠ 0)
    (h : (ofBinary64 x).contains d = true) :
    (Binary64.ladder (x.rank - 1) + Binary64.ladder x.rank) / 2 ≤ d.value ∧
      d.value ≤ (Binary64.ladder x.rank + Binary64.ladder (x.rank + 1)) / 2 ∧
      (x.significand % 2 = 1 →
        (Binary64.ladder (x.rank - 1) + Binary64.ladder x.rank) / 2 < d.value ∧
        d.value < (Binary64.ladder x.rank + Binary64.ladder (x.rank + 1)) / 2) := by
  have hunit : (0 : ℚ) < (ofBinary64 x).unit := by simp [ofBinary64]
  have hdenominator : (0 : ℚ) < d.denominator := by simp [Decimal.denominator]
  have hclosed : (ofBinary64 x).closed = (x.significand % 2 == 0) := rfl
  obtain ⟨hlow, hhigh⟩ := bounds_eq hsignificand
  rw [← hlow, ← hhigh, Decimal.value_eq, div_le_div_iff₀ hunit hdenominator,
    div_le_div_iff₀ hdenominator hunit, div_lt_div_iff₀ hunit hdenominator,
    div_lt_div_iff₀ hdenominator hunit]
  norm_cast
  simp only [contains, hclosed] at h
  split at h
  · next heven =>
    simp only [Bool.and_eq_true, decide_eq_true_eq, beq_iff_eq] at h heven
    exact ⟨h.1, h.2, fun hodd => by omega⟩
  · simp only [Bool.and_eq_true, decide_eq_true_eq] at h
    exact ⟨h.1.le, h.2.le, fun _ => h⟩

end RoundingInterval

namespace Binary64

/-- The rungs at the powers of two. -/
theorem ladder_mul (k : ℕ) : ladder ((k + 1) * 2 ^ 52) = 2 ^ 52 * 2 ^ k / 2 ^ 1074 := by
  have hlarge : ¬(k + 1) * 2 ^ 52 < 2 ^ 52 := by omega
  have hfraction : (k + 1) * 2 ^ 52 % 2 ^ 52 = 0 := Nat.mul_mod_left _ _
  have hfield : (k + 1) * 2 ^ 52 / 2 ^ 52 = k + 1 := Nat.mul_div_cancel _ (by decide)
  rw [ladder, rung, if_neg hlarge, hfraction, hfield, Nat.add_zero, Nat.add_sub_cancel,
    Nat.cast_mul, Nat.cast_pow, Nat.cast_pow, Nat.cast_ofNat]

/-- The rung above the greatest finite double would be `2 ^ 1024`. -/
theorem ladder_top : ladder (2047 * 2 ^ 52) = 2 ^ 1024 := by
  have hproduct : (2 : ℚ) ^ 52 * 2 ^ 2046 = 2 ^ 1024 * 2 ^ 1074 :=
    (pow_add 2 52 2046).symm.trans (pow_add 2 1024 1074)
  have hunit : (2 : ℚ) ^ 1074 ≠ 0 := by positivity
  exact (ladder_mul 2046).trans ((div_eq_iff hunit).mpr hproduct)

/-- The magnitude of the greatest finite double. -/
theorem ladder_greatest : ladder (2047 * 2 ^ 52 - 1) = 2 ^ 1024 - 2 ^ 971 := by
  have hstep := rung_succ (2047 * 2 ^ 52 - 1)
  rw [Nat.sub_add_cancel (by decide),
    show (2047 * 2 ^ 52 - 1) / 2 ^ 52 - 1 = 2045 from rfl] at hstep
  have hscale : (2 : ℚ) ^ 2045 / 2 ^ 1074 = 2 ^ 971 := by
    rw [div_eq_iff (by positivity), ← pow_add]
  have htop := ladder_top
  rw [ladder, hstep, Nat.cast_add, Nat.cast_pow, Nat.cast_ofNat, add_div, hscale] at htop
  exact eq_sub_of_add_eq htop

/-- No number in the rounding interval of a finite double is so great that it is read as
infinite. -/
theorem bounded_of_value_bounds {x : Binary64} {q : ℚ} (hfinite : x.isFinite = true)
    (hhigh : q ≤ (ladder x.rank + ladder (x.rank + 1)) / 2)
    (hodd : x.significand % 2 = 1 → q < (ladder x.rank + ladder (x.rank + 1)) / 2) :
    q < 2 ^ 1024 - 2 ^ 970 := by
  have hhalf : (2 : ℚ) ^ 971 = 2 ^ 970 * 2 := pow_succ 2 970
  have hpositive : (0 : ℚ) < 2 ^ 970 := by positivity
  have htop := ladder_top
  have hgreatest := ladder_greatest
  rcases Nat.lt_or_eq_of_le (rank_lt hfinite) with hless | hlast
  · have hhere : ladder x.rank < ladder (x.rank + 1) := ladder_strictMono (Nat.lt_succ_self _)
    have hnext : ladder (x.rank + 1) ≤ ladder (2047 * 2 ^ 52 - 1) :=
      ladder_strictMono.monotone (by omega)
    rw [hgreatest] at hnext
    generalize (2 : ℚ) ^ 1024 = top at *
    generalize (2 : ℚ) ^ 971 = step at *
    generalize (2 : ℚ) ^ 970 = half at *
    linarith
  · have hstrict := hodd (by rw [significand_mod_two]; omega)
    have hrank : x.rank = 2047 * 2 ^ 52 - 1 := by omega
    rw [hrank, Nat.sub_add_cancel (by decide), hgreatest, htop] at hstrict
    generalize (2 : ℚ) ^ 1024 = top at *
    generalize (2 : ℚ) ^ 971 = step at *
    generalize (2 : ℚ) ^ 970 = half at *
    linarith

/-- Of the other doubles, only those just below and just above need to be compared with one. -/
theorem magnitude_cases (x y : Binary64) : y.magnitude = x.magnitude ∨
    y.magnitude ≤ ladder (x.rank - 1) ∨ ladder (x.rank + 1) ≤ y.magnitude := by
  simp only [magnitude_eq_ladder]
  rcases Nat.lt_trichotomy y.rank x.rank with hless | heq | hmore
  · exact Or.inr (Or.inl (ladder_strictMono.monotone (by omega)))
  · exact Or.inl (by rw [heq])
  · exact Or.inr (Or.inr (ladder_strictMono.monotone hmore))

/-- A positive double is read from a number that is no farther from it than half way to the rungs
just below and just above, and not as far if its significand is odd. -/
theorem readFrom_of_bounds {x : Binary64} {q : ℚ} (hfinite : x.isFinite = true)
    (hpositive : x.rank ≠ 0)
    (hlow : (ladder (x.rank - 1) + ladder x.rank) / 2 ≤ q)
    (hhigh : q ≤ (ladder x.rank + ladder (x.rank + 1)) / 2)
    (hodd : x.significand % 2 = 1 → (ladder (x.rank - 1) + ladder x.rank) / 2 < q ∧
      q < (ladder x.rank + ladder (x.rank + 1)) / 2) :
    x.ReadFrom x.isNegative q := by
  have hbounded := bounded_of_value_bounds hfinite hhigh fun h => (hodd h).2
  have hbelow : ladder (x.rank - 1) < x.magnitude := by
    rw [magnitude_eq_ladder]
    exact ladder_strictMono (by omega)
  have habove : x.magnitude < ladder (x.rank + 1) := by
    rw [magnitude_eq_ladder]
    exact ladder_strictMono (by omega)
  rw [← magnitude_eq_ladder] at hlow hhigh hodd
  refine ⟨hfinite, rfl, hbounded, ?_, ?_⟩
  · intro y _
    rcases x.magnitude_cases y with heq | hless | hmore
    · rw [heq]
    · rw [abs_of_pos (show 0 < q - y.magnitude by linarith), abs_le]
      constructor <;> linarith
    · rw [abs_of_neg (show q - y.magnitude < 0 by linarith), abs_le]
      constructor <;> linarith
  · intro y _ hdistance hne
    by_contra heven
    obtain ⟨hlow, hhigh⟩ := hodd (by omega)
    refine hdistance.not_lt ?_
    rcases x.magnitude_cases y with heq | hless | hmore
    · exact absurd heq hne
    · rw [abs_of_pos (show 0 < q - y.magnitude by linarith), abs_lt]
      constructor <;> linarith
    · rw [abs_of_neg (show q - y.magnitude < 0 by linarith), abs_lt]
      constructor <;> linarith

/-- The numbers of the rounding interval of a positive double are read as the double. -/
theorem readFrom_of_contains {x : Binary64} {d : Decimal} (hfinite : x.isFinite = true)
    (hsignificand : x.significand ≠ 0)
    (h : (RoundingInterval.ofBinary64 x).contains d = true) :
    x.ReadFrom x.isNegative d.value := by
  obtain ⟨hlow, hhigh, hodd⟩ := RoundingInterval.value_bounds hsignificand h
  have hpositive : x.rank ≠ 0 := fun hzero => hsignificand (x.significand_eq_zero_iff.mpr hzero)
  exact readFrom_of_bounds hfinite hpositive hlow hhigh hodd

/-- A zero is read from the number zero with its sign. -/
theorem readFrom_zero {x : Binary64} (hfinite : x.isFinite = true) (hzero : x.significand = 0) :
    x.ReadFrom x.isNegative 0 := by
  have hmagnitude : x.magnitude = 0 := by simp [magnitude, hzero]
  refine ⟨hfinite, rfl, ?_, ?_, fun _ _ _ _ => by omega⟩
  · exact sub_pos.mpr (pow_lt_pow_right₀ (by norm_num) (by norm_num))
  · intro y _
    rw [hmagnitude, sub_zero, abs_zero]
    exact abs_nonneg _

/-- The shortest decimal of a double other than zero lies in its rounding interval. -/
theorem contains_shortest (tie : Tie) {x : Binary64} (hsignificand : x.significand ≠ 0) :
    (RoundingInterval.ofBinary64 x).contains (x.shortest tie) = true := by
  simp only [shortest, if_neg hsignificand]
  generalize (RoundingInterval.ofBinary64 x).magnitude = p
  cases hsearch : (RoundingInterval.ofBinary64 x).search tie (p + 1075).toNat p with
  | some d => exact RoundingInterval.contains_of_search hsearch
  | none =>
    refine RoundingInterval.contains_of_eq hsignificand ?_
    have hwhole : (min x.exponent 0).toNat = 0 := by omega
    have hpower : (-min x.exponent 0).toNat = (-x.exponent).toNat := by omega
    simp only [Option.getD_none, Decimal.numerator, Decimal.denominator, hwhole, hpower,
      RoundingInterval.ofBinary64, Nat.pow_eq, pow_zero, Nat.mul_one]
    rw [show 10 = 2 * 5 from rfl, Nat.mul_pow]
    ring

/-- The digits of the shortest decimal of a double other than zero are not zero. -/
theorem digits_shortest_ne_zero (tie : Tie) {x : Binary64} (hsignificand : x.significand ≠ 0) :
    (x.shortest tie).digits ≠ 0 := by
  intro hzero
  have hlow := (RoundingInterval.value_bounds hsignificand (contains_shortest tie hsignificand)).1
  have hvalue : (x.shortest tie).value = 0 := by simp [Decimal.value, hzero]
  have hless : ladder (x.rank - 1) < ladder x.rank := by
    refine ladder_strictMono (Nat.sub_one_lt fun hrank => hsignificand ?_)
    exact x.significand_eq_zero_iff.mpr hrank
  have hnonneg : 0 ≤ ladder (x.rank - 1) := div_nonneg (Nat.cast_nonneg _) (by positivity)
  linarith

/-- The shortest decimal of a finite double is read as the double, if its sign is kept. -/
theorem readFrom_shortest (tie : Tie) {x : Binary64} (hfinite : x.isFinite = true) :
    x.ReadFrom x.isNegative (x.shortest tie).value := by
  by_cases hzero : x.significand = 0
  · have hshortest : (x.shortest tie).value = 0 := by simp [shortest, hzero, Decimal.value]
    rw [hshortest]
    exact readFrom_zero hfinite hzero
  · exact readFrom_of_contains hfinite hzero (contains_shortest tie hzero)

end Binary64

end Lexis
