import Lexis.Proofs.Number.Nearest

/-!
# Integers are rounded to the nearest double

The bits that are packed for an integer are a rung of the ladder of doubles, also where rounding
carries out of the significand. The integer is at most half way from that rung to the next ones, so
it is read as the double of the rung. Integers beyond the greatest finite double by half a step or
more have no such double and become infinite.
-/

namespace Lexis

/-- The multiple `m * unit` is the number `n` rounded, halves to the even multiple. -/
structure HalfEven (m unit n : ℕ) : Prop where
  /-- The multiple is not more than half a unit above the number. -/
  low : 2 * (m * unit) ≤ 2 * n + unit
  /-- The multiple is not more than half a unit below the number. -/
  high : 2 * n ≤ 2 * (m * unit) + unit
  /-- An odd multiple is less than half a unit away. -/
  odd : m % 2 = 1 → 2 * (m * unit) < 2 * n + unit ∧ 2 * n < 2 * (m * unit) + unit

/-- A number that is a multiple is rounded to itself. -/
theorem HalfEven.of_eq {m unit n : ℕ} (hunit : 0 < unit) (h : m * unit = n) :
    HalfEven m unit n := by
  refine ⟨?_, ?_, fun _ => ?_⟩ <;> omega

/-- A number and its multiple may be scaled together: halves still go to the even multiple. -/
theorem HalfEven.scale {m unit n : ℕ} (h : HalfEven m unit n) {factor : ℕ} (hfactor : 0 < factor) :
    HalfEven m (unit * factor) (n * factor) := by
  have hmultiple : 2 * (m * (unit * factor)) = 2 * (m * unit) * factor := by ring
  have habove : 2 * (n * factor) + unit * factor = (2 * n + unit) * factor := by ring
  have hbelow : 2 * (m * unit) * factor + unit * factor = (2 * (m * unit) + unit) * factor := by
    ring
  have hnumber : 2 * (n * factor) = 2 * n * factor := by ring
  refine ⟨?_, ?_, fun hodd => ⟨?_, ?_⟩⟩
  · rw [hmultiple, habove]
    exact Nat.mul_le_mul_right _ h.low
  · rw [hmultiple, hbelow, hnumber]
    exact Nat.mul_le_mul_right _ h.high
  · rw [hmultiple, habove]
    exact Nat.mul_lt_mul_of_pos_right (h.odd hodd).1 hfactor
  · rw [hmultiple, hbelow, hnumber]
    exact Nat.mul_lt_mul_of_pos_right (h.odd hodd).2 hfactor

/-- The rounded quotient of a number gives the rounded number. -/
theorem halfEven_roundHalfEven (n k : ℕ) : HalfEven (roundHalfEven n k) (2 ^ k) n := by
  have hpos : 0 < 2 ^ k := Nat.two_pow_pos k
  simp only [roundHalfEven, Nat.pow_eq]
  generalize 2 ^ k = unit at *
  have hsplit : n / unit * unit + n % unit = n := Nat.div_add_mod' n unit
  have hmod : n % unit < unit := Nat.mod_lt n hpos
  generalize n / unit = quotient at *
  generalize n % unit = remainder at *
  split
  · refine ⟨?_, ?_, fun _ => ?_⟩ <;> omega
  · have hnext : (quotient + 1) * unit = quotient * unit + unit := by ring
    refine ⟨?_, ?_, fun _ => ?_⟩ <;> rw [hnext] <;> omega

namespace Binary64

/-- The rank of the double that a positive integer is rounded to, unless the integer becomes
infinite. -/
def rankOfNat (n : ℕ) : ℕ :=
  (n.log2 + 1022) * 2 ^ 52 + scaledSignificand n n.log2

/-- The rung of an integer counts the significand in units of its last bit, also if rounding has
carried. -/
theorem rung_rankOfNat {n : ℕ} (hn : n ≠ 0) :
    rung (rankOfNat n) = scaledSignificand n n.log2 * 2 ^ (n.log2 + 1022) := by
  obtain ⟨hlow, hhigh⟩ := scaledSignificand_bounds hn
  rw [rankOfNat]
  generalize scaledSignificand n n.log2 = scaled at *
  generalize hw : n.log2 + 1022 = w
  rw [rung, if_neg (by omega)]
  rcases Nat.lt_or_eq_of_le hhigh with hkept | hcarried
  · rw [show (w * 2 ^ 52 + scaled) % 2 ^ 52 = scaled - 2 ^ 52 by omega,
      show (w * 2 ^ 52 + scaled) / 2 ^ 52 - 1 = w by omega, Nat.add_sub_cancel' hlow]
  · rw [show (w * 2 ^ 52 + scaled) % 2 ^ 52 = 0 by omega,
      show (w * 2 ^ 52 + scaled) / 2 ^ 52 - 1 = w + 1 by omega, hcarried, pow_succ 2 w]
    omega

/-- The unit of the last bit of the significand, over that of the least positive double. -/
theorem pow_log2_eq {n k : ℕ} (hk : n.log2 = 52 + k) : 2 ^ (n.log2 + 1022) = 2 ^ k * 2 ^ 1074 := by
  rw [hk, ← pow_add]
  congr 1
  omega

/-- Below `2 ^ 53` the significand stands for the integer itself. -/
theorem scaled_eq {n : ℕ} (hn : n ≠ 0) (he : n.log2 ≤ 52) :
    scaledSignificand n n.log2 * 2 ^ (n.log2 + 1022) = n * 2 ^ 1074 := by
  have hweight : 52 - n.log2 + (n.log2 + 1022) = 1074 := by omega
  rw [(scaledSignificand_of_le hn he).1, Nat.mul_assoc, ← pow_add, hweight]

/-- The significand of an integer is the integer rounded. -/
theorem halfEven_scaled {n : ℕ} (hn : n ≠ 0) :
    HalfEven (scaledSignificand n n.log2) (2 ^ (n.log2 + 1022)) (n * 2 ^ 1074) := by
  by_cases he : n.log2 ≤ 52
  · exact .of_eq (Nat.two_pow_pos _) (scaled_eq hn he)
  · obtain ⟨k, hk⟩ := Nat.exists_eq_add_of_le (Nat.le_of_not_le he)
    have hunit : 0 < 2 ^ 1074 := by positivity
    rw [scaledSignificand_of_ge hk, pow_log2_eq hk]
    exact (halfEven_roundHalfEven n k).scale hunit

/-- An integer that is rounded to a power of two with the same leading bit is not less than it. -/
theorem scaled_le_of_least {n : ℕ} (hn : n ≠ 0) (hleast : scaledSignificand n n.log2 = 2 ^ 52) :
    scaledSignificand n n.log2 * 2 ^ (n.log2 + 1022) ≤ n * 2 ^ 1074 := by
  rw [hleast, ← pow_add, show 52 + (n.log2 + 1022) = n.log2 + 1074 by omega, pow_add]
  exact Nat.mul_le_mul_right _ (Nat.log2_self_le hn)

/-- The next rung is at least a unit of the significand above that of an integer. -/
theorem rung_rankOfNat_succ {n : ℕ} (hn : n ≠ 0) :
    rung (rankOfNat n) + 2 ^ (n.log2 + 1022) ≤ rung (rankOfNat n + 1) := by
  have hlow := (scaledSignificand_bounds hn).1
  rw [rung_succ]
  refine Nat.add_le_add_left (Nat.pow_le_pow_right (by decide) ?_) _
  rw [rankOfNat]
  omega

/-- The rung before that of an integer is a unit of the significand below, unless the significand is
the least one. -/
theorem rung_rankOfNat_pred {n : ℕ} (hn : n ≠ 0) (hmore : 2 ^ 52 < scaledSignificand n n.log2) :
    rung (rankOfNat n - 1) + 2 ^ (n.log2 + 1022) = rung (rankOfNat n) := by
  have hhigh := (scaledSignificand_bounds hn).2
  have hstep := rung_succ (rankOfNat n - 1)
  rw [show rankOfNat n - 1 + 1 = rankOfNat n by rw [rankOfNat]; omega,
    show (rankOfNat n - 1) / 2 ^ 52 - 1 = n.log2 + 1022 by rw [rankOfNat]; omega] at hstep
  exact hstep.symm

/-- A positive integer is no farther from its rung than half way to the next ones, and not as far if
the rank is odd. -/
theorem rung_bounds {n : ℕ} (hn : n ≠ 0) :
    rung (rankOfNat n - 1) + rung (rankOfNat n) ≤ 2 * (n * 2 ^ 1074) ∧
      2 * (n * 2 ^ 1074) ≤ rung (rankOfNat n) + rung (rankOfNat n + 1) ∧
      (rankOfNat n % 2 = 1 →
        rung (rankOfNat n - 1) + rung (rankOfNat n) < 2 * (n * 2 ^ 1074) ∧
        2 * (n * 2 ^ 1074) < rung (rankOfNat n) + rung (rankOfNat n + 1)) := by
  obtain ⟨hlow, hhigh, hodd⟩ := halfEven_scaled hn
  have hleast := scaled_le_of_least hn
  have hbound := (scaledSignificand_bounds hn).1
  have habove := rung_rankOfNat_succ hn
  have hbelow := rung_rankOfNat_pred hn
  have hparity : rankOfNat n % 2 = scaledSignificand n n.log2 % 2 := by rw [rankOfNat]; omega
  have hmono : rung (rankOfNat n - 1) ≤ rung (rankOfNat n) := by
    have hstep := rung_succ (rankOfNat n - 1)
    rw [show rankOfNat n - 1 + 1 = rankOfNat n by rw [rankOfNat]; omega] at hstep
    rw [hstep]
    exact Nat.le_add_right _ _
  rw [hparity]
  rw [← rung_rankOfNat hn] at hlow hhigh hodd hleast
  generalize n * 2 ^ 1074 = number at *
  generalize 2 ^ (n.log2 + 1022) = unit at *
  -- Below the least significand a step is half a unit, but there the integer is not below its rung.
  rcases Nat.lt_or_eq_of_le hbound with hmore | hequal
  · have hunit := hbelow hmore
    refine ⟨by omega, by omega, fun h => ?_⟩
    have hstrict := hodd h
    omega
  · have hnumber := hleast hequal.symm
    refine ⟨by omega, by omega, fun h => by omega⟩

/-- A positive integer lies between the points half way from the magnitude of its rank to the next
ones, and strictly if the rank is odd. -/
theorem ladder_bounds {n : ℕ} (hn : n ≠ 0) :
    (ladder (rankOfNat n - 1) + ladder (rankOfNat n)) / 2 ≤ n ∧
      n ≤ (ladder (rankOfNat n) + ladder (rankOfNat n + 1)) / 2 ∧
      (rankOfNat n % 2 = 1 →
        (ladder (rankOfNat n - 1) + ladder (rankOfNat n)) / 2 < n ∧
        n < (ladder (rankOfNat n) + ladder (rankOfNat n + 1)) / 2) := by
  have hladder (r : ℕ) : ladder r = rung r / ((2 ^ 1074 : ℕ) : ℚ) := by
    rw [ladder, Nat.cast_pow, Nat.cast_ofNat]
  have hpositive : 0 < 2 ^ 1074 := by positivity
  have hbounds := rung_bounds hn
  simp only [hladder]
  generalize 2 ^ 1074 = unit at *
  have hunit : (0 : ℚ) < unit := Nat.cast_pos.mpr hpositive
  simp only [← add_div, div_div, div_le_iff₀ (mul_pos hunit two_pos),
    le_div_iff₀ (mul_pos hunit two_pos), div_lt_iff₀ (mul_pos hunit two_pos),
    lt_div_iff₀ (mul_pos hunit two_pos)]
  norm_cast
  rwa [Nat.mul_comm 2, Nat.mul_assoc] at hbounds

/-- The bits of an integer that does not become infinite are its rank, without a sign. -/
theorem rank_ofNat {n : ℕ} (hn : n ≠ 0) (hsmall : rankOfNat n < 2047 * 2 ^ 52) :
    (ofNat n).isFinite = true ∧ (ofNat n).isNegative = false ∧ (ofNat n).rank = rankOfNat n := by
  have hbits := toNat_bits_ofNat hn
  rw [← rankOfNat, Nat.min_eq_left (Nat.le_of_lt hsmall)] at hbits
  refine ⟨?_, ?_, ?_⟩
  · simp only [isFinite, exponentField, hbits, Nat.pow_eq, bne_iff_ne]
    omega
  · simp only [isNegative, hbits, Nat.pow_eq, beq_eq_false_iff_ne]
    omega
  · simp only [rank, exponentField, fractionField, hbits, Nat.pow_eq]
    omega

/-- An integer whose rank is above those of the finite doubles becomes infinite. -/
theorem ofNat_of_large {n : ℕ} (hn : n ≠ 0) (hlarge : 2047 * 2 ^ 52 ≤ rankOfNat n) :
    ofNat n = infinity := by
  have hbits := toNat_bits_ofNat hn
  rw [← rankOfNat, Nat.min_eq_right hlarge] at hbits
  exact congrArg Binary64.mk (UInt64.toNat_inj.mp hbits)

/-- An integer whose rank is above those of the finite doubles is at least half way from the
greatest of them to the rung above. -/
theorem le_of_rank_large {n : ℕ} (hn : n ≠ 0) (hlarge : 2047 * 2 ^ 52 ≤ rankOfNat n) :
    (2 ^ 1024 - 2 ^ 970 : ℚ) ≤ n := by
  have hlow := (ladder_bounds hn).1
  have hbelow : ladder (2047 * 2 ^ 52 - 1) ≤ ladder (rankOfNat n - 1) :=
    ladder_strictMono.monotone (by omega)
  have hhere : ladder (2047 * 2 ^ 52) ≤ ladder (rankOfNat n) := ladder_strictMono.monotone hlarge
  have hhalf : (2 : ℚ) ^ 971 = 2 ^ 970 * 2 := pow_succ 2 970
  rw [ladder_greatest] at hbelow
  rw [ladder_top] at hhere
  generalize (2 : ℚ) ^ 1024 = top at *
  generalize (2 : ℚ) ^ 971 = step at *
  generalize (2 : ℚ) ^ 970 = half at *
  linarith

/-- An integer is read as the double that it is rounded to, or it is so great that it becomes
infinite. -/
theorem readFrom_or_infinity (n : ℕ) : (ofNat n).ReadFrom false n ∨
    ofNat n = infinity ∧ (2 ^ 1024 - 2 ^ 970 : ℚ) ≤ n := by
  by_cases hn : n = 0
  · subst hn
    exact Or.inl (readFrom_zero (x := ofNat 0) (by decide) (by decide))
  by_cases hsmall : rankOfNat n < 2047 * 2 ^ 52
  · left
    obtain ⟨hfinite, hsign, hrank⟩ := rank_ofNat hn hsmall
    obtain ⟨hlow, hhigh, hodd⟩ := ladder_bounds hn
    have hpositive : (ofNat n).rank ≠ 0 := by
      have hleast := (scaledSignificand_bounds hn).1
      rw [hrank, rankOfNat]
      omega
    rw [← hrank] at hlow hhigh hodd
    rw [← significand_mod_two] at hodd
    rw [← hsign]
    exact readFrom_of_bounds hfinite hpositive hlow hhigh hodd
  · have hlarge := Nat.le_of_not_lt hsmall
    exact Or.inr ⟨ofNat_of_large hn hlarge, le_of_rank_large hn hlarge⟩

/-- No integer gets a sign, not even zero. -/
theorem isNegative_ofNat (n : ℕ) : (ofNat n).isNegative = false := by
  rcases readFrom_or_infinity n with hread | ⟨hinfinite, -⟩
  · exact hread.sign
  · rw [hinfinite]
    decide

/-- An integer becomes infinite just if it is at least half way from the greatest finite double to
the power of two above. -/
theorem ofNat_eq_infinity_iff (n : ℕ) :
    ofNat n = infinity ↔ (2 ^ 1024 - 2 ^ 970 : ℚ) ≤ n := by
  constructor
  case mp =>
    intro hinfinite
    rcases readFrom_or_infinity n with hread | ⟨-, hlarge⟩
    · have hfinite := hread.finite
      rw [hinfinite] at hfinite
      exact absurd hfinite (by decide)
    · exact hlarge
  case mpr =>
    intro hlarge
    rcases readFrom_or_infinity n with hread | ⟨hinfinite, -⟩
    · exact absurd hread.bounded hlarge.not_gt
    · exact hinfinite

/-- An integer that does not become infinite is read as the double that it is rounded to. -/
theorem readFrom_ofNat {n : ℕ} (hsmall : (n : ℚ) < 2 ^ 1024 - 2 ^ 970) :
    (ofNat n).ReadFrom false n :=
  (readFrom_or_infinity n).resolve_right fun h => h.2.not_gt hsmall

/-- No double is read from an integer but the one that it is rounded to. -/
theorem ofNat_eq_of_readFrom {x : Binary64} {n : ℕ} (h : x.ReadFrom false n) : ofNat n = x :=
  (readFrom_ofNat h.bounded).unique h

/-- Of two numbers with one sign, the greater is not read as a double of a lesser magnitude. -/
theorem ReadFrom.mono {x y : Binary64} {p q : ℚ} {negative : Bool} (hx : x.ReadFrom negative p)
    (hy : y.ReadFrom negative q) (h : p ≤ q) : x.magnitude ≤ y.magnitude := by
  by_contra hgreater
  have hnearx := hx.nearest y hy.finite
  have hneary := hy.nearest x hx.finite
  have hp : (x.magnitude + y.magnitude) / 2 ≤ p := by
    by_contra hless
    rw [abs_of_neg (show p - x.magnitude < 0 by linarith)] at hnearx
    rcases le_abs.mp hnearx with hnear | hnear <;> linarith
  have hq : q ≤ (x.magnitude + y.magnitude) / 2 := by
    by_contra hmore
    rw [abs_of_pos (show 0 < q - y.magnitude by linarith)] at hneary
    rcases le_abs.mp hneary with hnear | hnear <;> linarith
  -- Both numbers are half way between the two doubles, so they are one number.
  obtain rfl : p = q := le_antisymm h (hq.trans hp)
  exact hgreater (le_of_eq (congrArg magnitude (hx.unique hy)))

/-- Integers up to `2 ^ 53` are doubles themselves. -/
theorem magnitude_ofNat {n : ℕ} (h : n ≤ 2 ^ 53) :
    (ofNat n).isFinite = true ∧ (ofNat n).magnitude = n := by
  rcases Nat.lt_or_eq_of_le h with hless | rfl
  case inr =>
    have hfields : (ofNat (2 ^ 53)).significand = 2 ^ 52 ∧ (ofNat (2 ^ 53)).exponent = 1 := by
      decide +kernel
    refine ⟨by decide +kernel, ?_⟩
    rw [magnitude, hfields.1, hfields.2]
    norm_num
  case inl =>
    by_cases hn : n = 0
    · subst hn
      have hzero : (ofNat 0).significand = 0 := by decide
      exact ⟨by decide, by simp [magnitude, hzero]⟩
    have he : n.log2 ≤ 52 := Nat.lt_succ_iff.mp ((Nat.log2_lt hn).mpr hless)
    have hsmall : rankOfNat n < 2047 * 2 ^ 52 := by
      have hmost := (scaledSignificand_bounds hn).2
      rw [rankOfNat]
      omega
    obtain ⟨hfinite, -, hrank⟩ := rank_ofNat hn hsmall
    refine ⟨hfinite, ?_⟩
    have hunit : (2 : ℚ) ^ 1074 ≠ 0 := by positivity
    rw [magnitude_eq_ladder, hrank, ladder, rung_rankOfNat hn, scaled_eq hn he, Nat.cast_mul,
      Nat.cast_pow, Nat.cast_ofNat]
    exact mul_div_cancel_right₀ _ hunit

/-- The double is what the integer `n` is rounded to. -/
structure RoundedFrom (x : Binary64) (n : ℕ) : Prop where
  /-- The double is a number. -/
  number : x.isNaN = false
  /-- The double has no sign, not even on zero. -/
  unsigned : x.isNegative = false
  /-- The double is infinite from half way between the greatest finite double and `2 ^ 1024` on. -/
  infinite : x = infinity ↔ (2 ^ 1024 - 2 ^ 970 : ℚ) ≤ n
  /-- Below that point the double is the finite one nearest to the integer, halves to the even
  significand. -/
  nearest : (n : ℚ) < 2 ^ 1024 - 2 ^ 970 → x.ReadFrom false n

/-- The order of the doubles without a sign: infinity is above the finite ones. -/
def AtMost (x y : Binary64) : Prop :=
  y = infinity ∨ x.isFinite = true ∧ y.isFinite = true ∧ x.magnitude ≤ y.magnitude

/-- What is finite is a number. -/
theorem isNaN_of_isFinite {x : Binary64} (h : x.isFinite = true) : x.isNaN = false := by
  simp only [isFinite, bne_iff_ne] at h
  simp [isNaN, h]

/-- The double that is taken for an integer is what the integer is rounded to. -/
theorem roundedFrom_ofNat (n : ℕ) : (ofNat n).RoundedFrom n where
  number := by
    rcases readFrom_or_infinity n with hread | ⟨hinfinite, -⟩
    · exact isNaN_of_isFinite hread.finite
    · rw [hinfinite]
      decide
  unsigned := isNegative_ofNat n
  infinite := ofNat_eq_infinity_iff n
  nearest := readFrom_ofNat

/-- An integer is rounded to no double but the one that is taken for it. -/
theorem RoundedFrom.eq_ofNat {x : Binary64} {n : ℕ} (h : x.RoundedFrom n) : x = ofNat n := by
  rcases readFrom_or_infinity n with hread | ⟨hinfinite, hlarge⟩
  · exact (h.nearest hread.bounded).unique hread
  · rw [hinfinite, h.infinite.mpr hlarge]

/-- A greater integer is rounded to a double that is not less. -/
theorem atMost_ofNat {m n : ℕ} (h : m ≤ n) : (ofNat m).AtMost (ofNat n) := by
  have hcast : (m : ℚ) ≤ n := Nat.cast_le.mpr h
  rcases readFrom_or_infinity n with hread | ⟨hinfinite, -⟩
  · have hm := readFrom_ofNat (hcast.trans_lt hread.bounded)
    exact Or.inr ⟨hm.finite, hread.finite, hm.mono hread hcast⟩
  · exact Or.inl hinfinite

end Binary64

end Lexis
