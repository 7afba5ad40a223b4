import Lexis.Proofs.Json.Numerals

/-!
# The notation of integers

The shortest decimal of an integer has no digits behind the point. So only two layouts remain: in
full, with zeros behind the digits, or with an exponent. The weight of the leading digit decides
between them, and for the JSON form this comes down to the integer itself: from `10 ^ 16` on it has
an exponent. That number is a double, so rounding and printing leave every other double on its side.
-/

namespace Lexis

namespace Json

namespace NumberText

/-- An integer in full, with zeros behind its digits. -/
def inFull (digits zeros : ℕ) (fraction : List Char) : NumberText where
  whole := Nat.toDigits 10 digits ++ List.replicate zeros '0'
  fraction := fraction
  power := none

/-- An integer with its first digit before the point and an exponent. -/
def withExponent (digits zeros : ℕ) : NumberText where
  whole := (Nat.toDigits 10 digits).take 1
  fraction := (Nat.toDigits 10 digits).drop 1
  power := some ((Nat.toDigits 10 digits).length + zeros - 1)

variable {style : NumeralStyle} {digits zeros : ℕ}

/-- A style without an exponent lays out an integer in full. -/
theorem layout_inFull
    (h : style.positional ((Nat.toDigits 10 digits).length + zeros - 1) = true) :
    style.layout ⟨digits, zeros⟩ =
      (inFull digits zeros (if style.pointZero then ['0'] else [])).text := by
  simp only [NumeralStyle.layout, if_pos h, if_pos (Int.natCast_nonneg zeros), Int.toNat_natCast]
  cases style.pointZero <;> simp [text, fractionText, powerText, inFull]

/-- A style with an exponent lays out an integer with its first digit before the point. -/
theorem layout_withExponent
    (h : style.positional ((Nat.toDigits 10 digits).length + zeros - 1) = false) :
    style.layout ⟨digits, zeros⟩ = (withExponent digits zeros).text := by
  simp only [NumeralStyle.layout, h]
  rfl

/-- An integer in full is a valid text and stands for the integer. -/
theorem valid_inFull (h : digits ≠ 0 ∨ zeros = 0) {fraction : List Char}
    (hfraction : fraction = [] ∨ fraction = ['0']) :
    (inFull digits zeros fraction).Valid ∧
      (inFull digits zeros fraction).value = (Decimal.mk digits zeros).value :=
  (digitsOf_toDigits ⟨digits, zeros⟩).beforeZeros rfl h fraction hfraction

/-- An integer with an exponent is a valid text and stands for the integer. -/
theorem valid_withExponent (digits zeros : ℕ) :
    (withExponent digits zeros).Valid ∧
      (withExponent digits zeros).value = (Decimal.mk digits zeros).value := by
  have hdigits := digitsOf_toDigits ⟨digits, zeros⟩
  have hlength := List.length_pos_iff.mpr hdigits.nonempty
  refine hdigits.split (some _) Nat.one_pos ?_
  simp only [Option.getD_some] at hlength ⊢
  omega

/-- An integer with an exponent has one digit before the point. -/
theorem length_whole_withExponent (digits zeros : ℕ) :
    (withExponent digits zeros).whole.length = 1 := by
  have hlength := List.length_pos_iff.mpr (Nat.toDigits_ne_nil (b := 10) (n := digits))
  rw [withExponent, List.length_take]
  omega

end NumberText

/-- An integer has no more digits than a power of ten that it is less than has zeros. -/
theorem length_toDigits_add_le_iff {digits zeros k : ℕ} (h : digits ≠ 0 ∨ zeros = 0)
    (hk : 0 < k) :
    (Nat.toDigits 10 digits).length + zeros ≤ k ↔ digits * 10 ^ zeros < 10 ^ k := by
  have hlength := Nat.length_toDigits_pos (b := 10) (n := digits)
  rcases Nat.lt_or_ge zeros k with hfew | hmany
  · obtain ⟨rest, rfl⟩ := Nat.exists_eq_add_of_lt hfew
    have hiff := Nat.length_toDigits_le_iff (b := 10) (n := digits) (k := rest + 1) (by decide)
      (Nat.succ_pos rest)
    rw [Nat.add_assoc, Nat.pow_add, Nat.mul_comm (10 ^ zeros),
      Nat.mul_lt_mul_right (Nat.pow_pos (by decide)), ← hiff]
    omega
  · have hdigits : 0 < digits := by omega
    have hmore : 10 ^ k ≤ digits * 10 ^ zeros :=
      (Nat.pow_le_pow_right (by decide) hmany).trans (Nat.le_mul_of_pos_left _ hdigits)
    omega

end Json

namespace Binary64

/-- The magnitude tells doubles of one sign apart. -/
theorem eq_of_magnitude_eq {x y : Binary64} (h : x.magnitude = y.magnitude)
    (hsign : x.isNegative = y.isNegative) : x = y := by
  rw [magnitude_eq_ladder, magnitude_eq_ladder] at h
  exact eq_of_rank_eq (ladder_strictMono.injective h) hsign

/-- The shortest decimal of a double is on the same side of `10 ^ 16` as the double. -/
theorem shortest_lt_iff (tie : Tie) {x : Binary64} (hfinite : x.isFinite = true)
    (hsign : x.isNegative = false) :
    (x.shortest tie).value < 10 ^ 16 ↔ x.magnitude < 10 ^ 16 := by
  have hfields : (ofNat (10 ^ 16)).significand = 5 * 10 ^ 15 ∧ (ofNat (10 ^ 16)).exponent = 1 := by
    decide +kernel
  have hmagnitude : (ofNat (10 ^ 16)).magnitude = 10 ^ 16 := by
    rw [magnitude, hfields.1, hfields.2]
    norm_num
  have hshortest : ((ofNat (10 ^ 16)).shortest tie).value = 10 ^ 16 := by
    have hdecimal : (ofNat (10 ^ 16)).shortest tie = ⟨1, 16⟩ := by cases tie <;> decide +kernel
    rw [hdecimal, Decimal.value]
    norm_num
  have hlimit : (ofNat (10 ^ 16)).ReadFrom false (10 ^ 16) := by
    have hinfinite : ofNat (10 ^ 16) ≠ infinity := by decide +kernel
    have hread := (readFrom_or_infinity (10 ^ 16)).resolve_right fun h => hinfinite h.1
    rwa [Nat.cast_pow, Nat.cast_ofNat] at hread
  have hread := readFrom_shortest tie hfinite
  rw [hsign] at hread
  constructor
  case mp =>
    intro hless
    have hle := hread.mono hlimit hless.le
    rw [hmagnitude] at hle
    refine lt_of_le_of_ne hle fun heq => ?_
    -- At the limit itself the decimal is not less.
    have hx : x = ofNat (10 ^ 16) :=
      eq_of_magnitude_eq (heq.trans hmagnitude.symm) (hsign.trans hlimit.sign.symm)
    rw [hx, hshortest] at hless
    exact lt_irrefl _ hless
  case mpr =>
    intro hless
    by_contra hmore
    have hle := hlimit.mono hread (not_lt.mp hmore)
    rw [hmagnitude] at hle
    exact hless.not_ge hle

/-- An integer is shown as a run of digits that begins with a zero only if it is zero. -/
theorem IsInteger.exists_shown {x : Binary64} (h : x.IsInteger) :
    ∃ shown : List Char, (Token.number x).display = String.ofList shown ∧ shown ≠ [] ∧
      (∀ c ∈ shown, c.isDigit = true) ∧ (shown.head? = some '0' → shown = ['0']) := by
  obtain ⟨digits, zeros, hshortest, hdigits, -⟩ := h.exists_decimal .up
  obtain ⟨hvalid, -⟩ := Json.NumberText.valid_inFull hdigits (Or.inl rfl)
  refine ⟨_, ?_, hvalid.whole, fun c hc => hvalid.digits c (by simp [hc]), ?_⟩
  · rw [Token.display, write_of_unsigned _ h.finite h.unsigned]
    change String.ofList (Token.numeral.layout (x.shortest .up)) = _
    rw [hshortest, Json.NumberText.layout_inFull rfl]
    simp [Json.NumberText.text, Json.NumberText.fractionText, Json.NumberText.powerText,
      Json.NumberText.inFull, Token.numeral]
  · intro hzero
    obtain ⟨c, hwhole⟩ := List.length_eq_one_iff.mp (hvalid.leading hzero)
    rw [hwhole] at hzero ⊢
    exact congrArg (fun c => [c]) (Option.some.inj hzero)

/-- The literal that is written for an integer in JSON. -/
structure IsLiteral (x : Binary64) (literal : Json.NumberText) : Prop where
  /-- The literal is what is written for the double. -/
  written : (Json.numeral.write x).toList = literal.text
  /-- The literal has digits, and no needless zero in front. -/
  valid : literal.Valid
  /-- The literal stands for the shortest decimal of the double. -/
  value : literal.value = (x.shortest .toEven).value
  /-- Below `10 ^ 16` the integer is written in full, with a zero behind the point. -/
  inFull : x.magnitude < 10 ^ 16 → literal.fraction = ['0'] ∧ literal.power = none
  /-- From there on there is one digit before the point, and an exponent. -/
  withExponent : 10 ^ 16 ≤ x.magnitude →
    literal.whole.length = 1 ∧ ∃ power : ℤ, literal.power = some power ∧ 16 ≤ power

/-- Every integer has a literal. -/
theorem IsInteger.exists_literal {x : Binary64} (h : x.IsInteger) :
    ∃ literal, x.IsLiteral literal := by
  obtain ⟨digits, zeros, hshortest, hdigits, -⟩ := h.exists_decimal .toEven
  have hwritten : (Json.numeral.write x).toList = Json.numeral.layout ⟨digits, zeros⟩ := by
    rw [write_of_unsigned _ h.finite h.unsigned, String.toList_ofList, ← hshortest]
    rfl
  have hlimit := shortest_lt_iff .toEven h.finite h.unsigned
  have hvalue : (Decimal.mk digits zeros).value = (digits * 10 ^ zeros : ℕ) := by
    simp [Decimal.value]
  have hlength := Json.length_toDigits_add_le_iff hdigits (show 0 < 16 by decide)
  have hcast : ((10 ^ 16 : ℕ) : ℚ) = 10 ^ 16 := by norm_num
  -- The writer looks at the weight of the leading digit, which is a bound on the number itself.
  rw [hshortest, hvalue, ← hcast, Nat.cast_lt, ← hlength, hcast] at hlimit
  by_cases hless : x.magnitude < 10 ^ 16
  case pos =>
    have hweight := hlimit.mpr hless
    obtain ⟨hvalid, hsame⟩ := Json.NumberText.valid_inFull hdigits (Or.inr rfl)
    refine ⟨.inFull digits zeros ['0'], ?_, hvalid, by rw [hsame, hshortest], ?_, ?_⟩
    · rw [hwritten, Json.NumberText.layout_inFull]
      · rfl
      · simp only [Json.numeral, Bool.and_eq_true, decide_eq_true_eq]
        omega
    · exact fun _ => ⟨rfl, rfl⟩
    · exact fun hmore => absurd hless hmore.not_gt
  case neg =>
    have hweight := mt hlimit.mp hless
    obtain ⟨hvalid, hsame⟩ := Json.NumberText.valid_withExponent digits zeros
    refine ⟨.withExponent digits zeros, ?_, hvalid, by rw [hsame, hshortest], ?_, ?_⟩
    · rw [hwritten, Json.NumberText.layout_withExponent]
      simp only [Json.numeral, Bool.and_eq_false_iff, decide_eq_false_iff_not]
      omega
    · exact fun hmore => absurd hmore hless
    · exact fun _ => ⟨Json.NumberText.length_whole_withExponent digits zeros, _, rfl, by omega⟩

end Binary64

end Lexis
