import Lexis.Number.Shortest

/-!
# Numerals

A double is written with the digits of its shortest decimal. `NumeralStyle` says how these digits
are laid out: whether with an exponent, and whether an integer gets a decimal point.
-/

namespace Lexis

/-- The decisions that turn a decimal into text. -/
structure NumeralStyle where
  /-- Which of two equally close shortest decimals is written. -/
  tie : Tie
  /-- Says for which weights of the leading digit, as exponents of ten, the number is written
  without an exponent. -/
  positional : Int → Bool
  /-- Says whether an integer that is written without an exponent ends in `.0`. -/
  pointZero : Bool

namespace NumeralStyle

/-- A mantissa with one digit before the point, and a signed exponent of ten. -/
def scientific (digits : List Char) (leading : Int) : List Char :=
  let fraction :=
    match digits.drop 1 with
    | [] => []
    | rest => '.' :: rest
  let sign := if leading < 0 then '-' else '+'
  digits.take 1 ++ fraction ++ 'e' :: sign :: Nat.toDigits 10 leading.natAbs

/-- The text of a decimal. -/
def layout (style : NumeralStyle) (d : Decimal) : List Char :=
  let digits := Nat.toDigits 10 d.digits
  let leading := digits.length + d.exponent - 1
  if style.positional leading then
    if 0 ≤ d.exponent then
      digits ++ List.replicate d.exponent.toNat '0' ++ (if style.pointZero then ['.', '0'] else [])
    else if 0 ≤ leading then
      digits.take (leading + 1).toNat ++ '.' :: digits.drop (leading + 1).toNat
    else
      '0' :: '.' :: (List.replicate (-leading - 1).toNat '0' ++ digits)
  else
    scientific digits leading

/-- The text of a double. The sign of zero is kept, and what is not a number has no sign. -/
def write (style : NumeralStyle) (x : Binary64) : String :=
  if x.isNaN then "NaN"
  else
    let sign := if x.isNegative then "-" else ""
    if x.isInfinite then sign ++ "inf"
    else sign ++ String.ofList (style.layout (x.shortest style.tie))

end NumeralStyle

end Lexis
