import Lexis.Number.Binary64

/-!
# The shortest decimal for a double

Every double is the nearest one to all numbers of some interval. Its shortest decimal is the
number of that interval with the fewest digits, and among those the one closest to the double.
The search runs over ever finer decimal grids and compares exactly, with natural numbers.
-/

namespace Lexis

/-- The number `digits * 10 ^ exponent`. -/
structure Decimal where
  /-- The digits, read as an integer. -/
  digits : Nat
  /-- The power of ten by which the digits are scaled. -/
  exponent : Int
deriving DecidableEq, Repr

namespace Decimal

/-- The numerator of a decimal over `Decimal.denominator`. -/
def numerator (d : Decimal) : Nat :=
  d.digits * Nat.pow 10 d.exponent.toNat

/-- The power of ten below the fraction bar of a decimal. -/
def denominator (d : Decimal) : Nat :=
  Nat.pow 10 (-d.exponent).toNat

end Decimal

/-- Which of two equally close decimals is taken. -/
inductive Tie where
  /-- The one whose last digit is even. -/
  | toEven
  /-- The greater one. -/
  | up
deriving DecidableEq, Repr

/-- The numbers that round to a positive double, given by their bounds and the double itself as
numerators over one denominator. -/
structure RoundingInterval where
  /-- The lower bound: half way to the next smaller double. -/
  low : Nat
  /-- The double itself. -/
  middle : Nat
  /-- The upper bound: half way to the next greater double. -/
  high : Nat
  /-- The denominator of the three numbers. -/
  unit : Nat
  /-- Says whether the bounds round to the double too, which they do if its significand is even. -/
  closed : Bool
deriving DecidableEq, Repr

namespace RoundingInterval

/-- The interval of the magnitudes that round to a finite double. At a power of two the gap below
is only half the gap above, except at the least normal double. -/
def ofBinary64 (x : Binary64) : RoundingInterval :=
  let m := x.significand
  let gapBelow := if x.fractionField = 0 ∧ 1 < x.exponentField then 1 else 2
  let scale := Nat.pow 2 x.exponent.toNat
  { low := (4 * m - gapBelow) * scale
    middle := 4 * m * scale
    high := (4 * m + 2) * scale
    unit := 4 * Nat.pow 2 (-x.exponent).toNat
    closed := m % 2 == 0 }

/-- Says whether a decimal lies in the interval. -/
def contains (i : RoundingInterval) (d : Decimal) : Bool :=
  let low := i.low * d.denominator
  let high := i.high * d.denominator
  let value := d.numerator * i.unit
  if i.closed then decide (low ≤ value) && decide (value ≤ high)
  else decide (low < value) && decide (value < high)

/-- The integer part of the double in units of `10 ^ p`. -/
def floorAt (i : RoundingInterval) (p : Int) : Nat :=
  i.middle * Nat.pow 10 (-p).toNat / (i.unit * Nat.pow 10 p.toNat)

/-- Compares the double with the point half way between `d * 10 ^ p` and `(d + 1) * 10 ^ p`. -/
def compareHalfway (i : RoundingInterval) (p : Int) (d : Nat) : Ordering :=
  compare (2 * i.middle * Nat.pow 10 (-p).toNat) ((2 * d + 1) * Nat.pow 10 p.toNat * i.unit)

/-- The multiple of `10 ^ p` that is closest to the double among those in the interval, if there
is any. Only the two neighbours of the double need to be tried. -/
def closestAt (tie : Tie) (i : RoundingInterval) (p : Int) : Option Decimal :=
  let below : Decimal := ⟨i.floorAt p, p⟩
  let above : Decimal := ⟨i.floorAt p + 1, p⟩
  match i.contains below, i.contains above with
  | false, false => none
  | true, false => some below
  | false, true => some above
  | true, true =>
    match i.compareHalfway p below.digits, tie with
    | .lt, _ => some below
    | .gt, _ => some above
    | .eq, .up => some above
    | .eq, .toEven => some (if below.digits % 2 = 0 then below else above)

/-- Tries the given number of decimal grids, each ten times finer than the one before, and returns
the first decimal found. -/
def search (tie : Tie) (i : RoundingInterval) : Nat → Int → Option Decimal
  | 0, _ => none
  | grids + 1, p => (i.closestAt tie p).or (search tie i grids (p - 1))

/-- The number of digits before the point, or, for a number below one, the negated number of
zeros that follow the point: the least `k` for which the double is less than `10 ^ k`. -/
def magnitude (i : RoundingInterval) : Int :=
  if i.unit ≤ i.middle then (Nat.toDigits 10 (i.middle / i.unit)).length
  else 1 - (Nat.toDigits 10 ((i.unit - 1) / i.middle)).length

end RoundingInterval

/-- The shortest decimal that rounds to the magnitude of a finite double. The search starts at the
power of ten just above the double and ends, at the latest, on the grid that holds the double
itself. -/
def Binary64.shortest (tie : Tie) (x : Binary64) : Decimal :=
  if x.significand = 0 then ⟨0, 0⟩
  else
    let i := RoundingInterval.ofBinary64 x
    let exact : Decimal :=
      ⟨x.significand * Nat.pow 2 x.exponent.toNat * Nat.pow 5 (-x.exponent).toNat, min x.exponent 0⟩
    (i.search tie (i.magnitude + 1075).toNat i.magnitude).getD exact

end Lexis
