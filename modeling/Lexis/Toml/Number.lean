import Lexis.Toml.Basic
import Lexis.Toml.Digit

/-!
# Numbers

Integers in four bases and numbers with a fraction or an exponent. Single underscores may separate
digits. What is out of range is not a number.
-/

namespace Lexis.Toml

/-- The digits of a run without the single underscores between them. -/
def digits? (isDigit : Char → Bool) : List Char → Option (List Char)
  | [] => none
  | [c] => if isDigit c then some [c] else none
  | c :: '_' :: rest => if isDigit c then (digits? isDigit rest).map (c :: ·) else none
  | c :: rest => if isDigit c then (digits? isDigit rest).map (c :: ·) else none

/-- The digits of a decimal integer without its sign. Only the number zero begins with a zero. -/
def decimalDigits? (s : List Char) : Option (List Char) := do
  let digits ← digits? Char.isDigit s
  if digits.head? = some '0' ∧ digits.length ≠ 1 then none else some digits

/-- The number without its sign, and whether the sign is a minus. -/
def splitSign : List Char → Bool × List Char
  | '-' :: rest => (true, rest)
  | '+' :: rest => (false, rest)
  | s => (false, s)

/-- An integer, if it has 64 bits. -/
def inRange? (n : Int) : Option Int :=
  if -0x8000000000000000 ≤ n ∧ n < 0x8000000000000000 then some n else none

/-- The integer that is written after the letter of a base. -/
def basedInteger? (base : Nat) (s : List Char) : Option Int := do
  let digits ← digits? (isDigitOf base) s
  inRange? (ofDigits base digits)

/-- The integer that a word stands for. -/
def integer? : List Char → Option Int
  | '0' :: 'x' :: rest => basedInteger? 16 rest
  | '0' :: 'o' :: rest => basedInteger? 8 rest
  | '0' :: 'b' :: rest => basedInteger? 2 rest
  | s => do
    let (negative, rest) := splitSign s
    let n := ofDigits 10 (← decimalDigits? rest)
    inRange? (if negative then -(n : Int) else n)

/-- The least number that rounds to infinity. -/
def overflowBound : Nat :=
  Nat.pow 2 1024 - Nat.pow 2 970

/-- Says whether `n * 10 ^ scale` is too large for a double. The number of digits decides unless it
is close to that of the bound. -/
def overflows (n : Nat) (scale : Int) : Bool :=
  let magnitude := ((toString n).length : Int) + scale
  if n = 0 ∨ magnitude < 309 then false
  else if 309 < magnitude then true
  else if 0 ≤ scale then overflowBound ≤ n * Nat.pow 10 scale.toNat
  else overflowBound * Nat.pow 10 (-scale).toNat ≤ n

/-- The exponent after its letter. -/
def exponent? (s : List Char) : Option Int := do
  let (negative, rest) := splitSign s
  let n := ofDigits 10 (← digits? Char.isDigit rest)
  return if negative then -(n : Int) else n

/-- Says whether a character begins an exponent. -/
def isExponentMark (c : Char) : Bool :=
  c = 'e' || c = 'E'

/-- The digits of a number with a fraction or an exponent and the weight of the last of them: the
number is `n * 10 ^ scale`. -/
def scaled? (s : List Char) : Option (Nat × Int) := do
  let whole ← decimalDigits? (s.takeWhile fun c => c != '.' && !isExponentMark c)
  match s.dropWhile fun c => c != '.' && !isExponentMark c with
  | '.' :: rest =>
    let fraction ← digits? Char.isDigit (rest.takeWhile fun c => !isExponentMark c)
    let exponent ←
      match rest.dropWhile fun c => !isExponentMark c with
      | [] => some 0
      | _ :: rest => exponent? rest
    return (ofDigits 10 (whole ++ fraction), exponent - fraction.length)
  | _ :: rest => return (ofDigits 10 whole, ← exponent? rest)
  | [] => none

/-- Says whether a word is a number with a fraction or an exponent, infinite or not a number. A
positive number that is too large is none; a negative one stands for minus infinity. -/
def isFloat (s : List Char) : Bool :=
  let (negative, rest) := splitSign s
  if rest = ['i', 'n', 'f'] ∨ rest = ['n', 'a', 'n'] then true
  else
    match scaled? rest with
    | none => false
    | some (n, scale) => negative || !overflows n scale

end Lexis.Toml
