import Lexis.Toml.Digit

/-!
# Dates and times

A date, a time of the day, or both with a `T` between them and then perhaps an offset from
universal time. Every part has a fixed number of digits, and only a fraction of the seconds may
have any number of them.
-/

namespace Lexis.Toml

/-- Takes a number of `width` digits from `low` to `high`. -/
def part? (width low high : Nat) (s : List Char) : Option (Nat × List Char) :=
  let digits := s.take width
  let n := ofDigits 10 digits
  if digits.length = width ∧ digits.all Char.isDigit ∧ low ≤ n ∧ n ≤ high then
    some (n, s.drop width)
  else none

/-- Takes one given character. -/
def mark? (c : Char) : List Char → Option (List Char)
  | d :: rest => if d = c then some rest else none
  | [] => none

/-- The number of days of a month. -/
def daysIn (year month : Nat) : Nat :=
  if month = 2 then
    if year % 4 = 0 ∧ (year % 100 ≠ 0 ∨ year % 400 = 0) then 29 else 28
  else if month = 4 ∨ month = 6 ∨ month = 9 ∨ month = 11 then 30
  else 31

/-- The text after a date. -/
def afterDate? (s : List Char) : Option (List Char) := do
  let (year, s) ← part? 4 0 9999 s
  let s ← mark? '-' s
  let (month, s) ← part? 2 1 12 s
  let s ← mark? '-' s
  let (_, s) ← part? 2 1 (daysIn year month) s
  return s

/-- The text after an hour and a minute. -/
def afterMinute? (s : List Char) : Option (List Char) := do
  let (_, s) ← part? 2 0 23 s
  let s ← mark? ':' s
  let (_, s) ← part? 2 0 59 s
  return s

/-- The text after a time of the day. A minute may have a leap second. -/
def afterTime? (s : List Char) : Option (List Char) := do
  let s ← afterMinute? s
  let s ← mark? ':' s
  let (_, s) ← part? 2 0 60 s
  match s with
  | '.' :: rest =>
    if (rest.head?.map Char.isDigit).getD false then return rest.dropWhile Char.isDigit else none
  | _ => return s

/-- Says whether a text is empty or an offset from universal time. -/
def isOffset : List Char → Bool
  | [] => true
  | ['Z'] => true
  | ['z'] => true
  | '+' :: rest => afterMinute? rest = some []
  | '-' :: rest => afterMinute? rest = some []
  | _ => false

/-- Says whether a text is a time of the day with or without an offset. -/
def isOffsetTime (s : List Char) : Bool :=
  match afterTime? s with
  | some rest => isOffset rest
  | none => false

/-- Says whether a word is a date without a time. -/
def isDate (s : List Char) : Bool :=
  afterDate? s = some []

/-- Says whether a word is a date, a time, or a date and a time with a `T` between them. -/
def isMoment (s : List Char) : Bool :=
  match afterDate? s with
  | some [] => true
  | some (c :: rest) => (c = 'T' || c = 't') && isOffsetTime rest
  | none => afterTime? s = some []

end Lexis.Toml
