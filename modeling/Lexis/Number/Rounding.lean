import Lexis.Number.Binary64

/-!
# Rounding integers to doubles

`Binary64.ofNat` gives the double nearest to a natural number of any size; of two equally near
ones it takes the one with the even significand. Numbers from `2 ^ 1024 - 2 ^ 970` on are nearer
to `2 ^ 1024` than to the greatest finite double, and become infinite.
-/

namespace Lexis

/-- The quotient of `n` by `2 ^ k`, rounded to the nearest integer, halves to the even one. -/
def roundHalfEven (n k : Nat) : Nat :=
  let quotient := n / Nat.pow 2 k
  let twice := 2 * (n % Nat.pow 2 k)
  if twice < Nat.pow 2 k ∨ (twice = Nat.pow 2 k ∧ quotient % 2 = 0) then quotient
  else quotient + 1

namespace Binary64

/-- The significand of 53 bits for a positive number whose leading bit has the weight `2 ^ e`.
Rounding may carry it to `2 ^ 53`. -/
def scaledSignificand (n e : Nat) : Nat :=
  if e ≤ 52 then n * Nat.pow 2 (52 - e) else roundHalfEven n (e - 52)

/-- The double nearest to a natural number. The leading bit of the significand is added to the
exponent field, which lacks one for it, so that a carry out of the significand moves to the next
exponent by itself. -/
def ofNat (n : Nat) : Binary64 :=
  if n = 0 then ⟨0⟩
  else
    let e := n.log2
    ⟨UInt64.ofNat (min ((e + 1022) * Nat.pow 2 52 + scaledSignificand n e) infinity.bits.toNat)⟩

/-- The double nearest to the number that a text of decimal digits stands for. A text without
digits, or with anything else in it, stands for none. -/
def ofDigits? (text : String) : Option Binary64 :=
  let digits := text.toList
  if digits.isEmpty || digits.any (!·.isDigit) then none
  else some (ofNat (Nat.ofDigitChars 10 digits 0))

/-- Every text of digits stands for a number. -/
theorem ofDigits?_ofList {digits : List Char} (hne : digits ≠ [])
    (hdigits : ∀ c ∈ digits, c.isDigit = true) :
    ofDigits? (String.ofList digits) = some (ofNat (Nat.ofDigitChars 10 digits 0)) := by
  have hany : digits.any (!·.isDigit) = false := by simpa using hdigits
  simp [ofDigits?, hne, hany]

end Binary64

end Lexis
