import Mathlib.Algebra.Order.Ring.Nat
import Lexis.Number.Shortest

/-!
# The search for a shortest decimal

The search goes from grid to grid and ends at the first decimal of the rounding interval. It ends at
such decimals only, and no later than at a grid that has one just below the double.
-/

namespace Lexis

namespace RoundingInterval

variable {tie : Tie} {i : RoundingInterval} {p : ℤ} {d : Decimal}

/-- The decimal that is found on a grid lies on it and in the interval. -/
theorem of_closestAt (h : i.closestAt tie p = some d) : i.contains d = true ∧ d.exponent = p := by
  simp only [closestAt] at h
  split at h
  · cases h
  · obtain rfl := Option.some.inj h
    exact ⟨by assumption, rfl⟩
  · obtain rfl := Option.some.inj h
    exact ⟨by assumption, rfl⟩
  · next hbelow habove =>
    split at h
    · obtain rfl := Option.some.inj h
      exact ⟨hbelow, rfl⟩
    · obtain rfl := Option.some.inj h
      exact ⟨habove, rfl⟩
    · obtain rfl := Option.some.inj h
      exact ⟨habove, rfl⟩
    · obtain rfl := Option.some.inj h
      split
      · exact ⟨hbelow, rfl⟩
      · exact ⟨habove, rfl⟩

/-- A decimal is found on a grid that has one just below the double in the interval. -/
theorem exists_closestAt (tie : Tie) (h : i.contains ⟨i.floorAt p, p⟩ = true) :
    ∃ d, i.closestAt tie p = some d := by
  simp only [closestAt, h]
  split
  · contradiction
  · exact ⟨_, rfl⟩
  · contradiction
  · split <;> exact ⟨_, rfl⟩

/-- A search ends only in the interval. -/
theorem contains_of_search {grids : ℕ} (h : i.search tie grids p = some d) :
    i.contains d = true := by
  induction grids generalizing p with
  | zero => cases h
  | succ grids ih =>
    rw [search] at h
    rcases Option.or_eq_some_iff.mp h with hclosest | ⟨-, hlater⟩
    · exact (of_closestAt hclosest).1
    · exact ih hlater

/-- A search that comes to a grid with a decimal in the interval finds one there or before. -/
theorem exists_search {grids : ℕ} {finest : ℤ} (hfirst : finest ≤ p) (hlast : p - finest < grids)
    (h : ∃ d, i.closestAt tie finest = some d) :
    ∃ d, i.search tie grids p = some d ∧ finest ≤ d.exponent := by
  induction grids generalizing p with
  | zero => omega
  | succ grids ih =>
    rw [search]
    cases hclosest : i.closestAt tie p with
    | some d =>
      obtain ⟨-, rfl⟩ := of_closestAt hclosest
      exact ⟨d, rfl, hfirst⟩
    | none =>
      have hne : finest ≠ p := by
        rintro rfl
        obtain ⟨d, hd⟩ := h
        simp [hd] at hclosest
      exact ih (by omega) (by omega)

/-- The double itself lies in its rounding interval, in whatever decimal it is given. -/
theorem contains_of_eq {x : Binary64} (hsignificand : x.significand ≠ 0)
    (h : d.numerator * (ofBinary64 x).unit = (ofBinary64 x).middle * d.denominator) :
    (ofBinary64 x).contains d = true := by
  have hdenominator : 0 < d.denominator := Nat.pos_of_ne_zero (by simp [Decimal.denominator])
  have hscale : 0 < 2 ^ x.exponent.toNat := Nat.two_pow_pos _
  have hlow : (ofBinary64 x).low < (ofBinary64 x).middle := by
    simp only [ofBinary64, Nat.pow_eq]
    refine Nat.mul_lt_mul_of_pos_right ?_ hscale
    split <;> omega
  have hhigh : (ofBinary64 x).middle < (ofBinary64 x).high := by
    simp only [ofBinary64, Nat.pow_eq]
    exact Nat.mul_lt_mul_of_pos_right (by omega) hscale
  have hlow' := Nat.mul_lt_mul_of_pos_right hlow hdenominator
  have hhigh' := Nat.mul_lt_mul_of_pos_right hhigh hdenominator
  simp only [contains, h]
  split <;> simp [hlow', hhigh', Nat.le_of_lt]

end RoundingInterval

end Lexis
