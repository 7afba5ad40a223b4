/-!
# Binary floating-point numbers of 64 bits

A number of the language is a double in the IEEE 754 interchange format. It is kept as its bits
and read with natural numbers, so that every statement about it is a statement of exact
arithmetic.
-/

namespace Lexis

/-- A double, given by its bits: one sign bit, eleven exponent bits and 52 fraction bits. -/
structure Binary64 where
  /-- The bits of the interchange format. -/
  bits : UInt64
deriving DecidableEq, Repr

namespace Binary64

/-- Says whether the sign bit is set. -/
def isNegative (x : Binary64) : Bool :=
  x.bits.toNat / Nat.pow 2 63 == 1

/-- The eleven exponent bits. -/
def exponentField (x : Binary64) : Nat :=
  x.bits.toNat / Nat.pow 2 52 % Nat.pow 2 11

/-- The 52 fraction bits. -/
def fractionField (x : Binary64) : Nat :=
  x.bits.toNat % Nat.pow 2 52

/-- Says whether the bits stand for no number at all. -/
def isNaN (x : Binary64) : Bool :=
  x.exponentField == 2047 && x.fractionField != 0

/-- Says whether the bits stand for an infinity. -/
def isInfinite (x : Binary64) : Bool :=
  x.exponentField == 2047 && x.fractionField == 0

/-- Says whether the bits stand for a number with a finite value. -/
def isFinite (x : Binary64) : Bool :=
  x.exponentField != 2047

/-- The integer `m` for which a finite double has the magnitude `m * 2 ^ x.exponent`. -/
def significand (x : Binary64) : Nat :=
  if x.exponentField = 0 then x.fractionField else Nat.pow 2 52 + x.fractionField

/-- The weight, as an exponent of two, of the last bit of the significand. -/
def exponent (x : Binary64) : Int :=
  if x.exponentField = 0 then -1074 else (x.exponentField : Int) - 1075

/-- Says whether the double is a zero of either sign. -/
def isZero (x : Binary64) : Bool :=
  x.exponentField == 0 && x.fractionField == 0

/-- Equality of the numbers that two doubles stand for: the zeros of both signs are equal, and
what is not a number equals nothing. -/
def numEq (x y : Binary64) : Bool :=
  !x.isNaN && !y.isNaN && (x == y || (x.isZero && y.isZero))

/-- The double for positive infinity. -/
def infinity : Binary64 :=
  ⟨0x7FF0000000000000⟩

end Binary64

end Lexis
