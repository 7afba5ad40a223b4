import Lexis.Source.Cursor

/-!
# All movements of a cursor are made of one

Reading a character, reading on and skipping white space differ in where they stop. Each of them
is `Cursor.advance` by the number of characters that it takes, which leaves the other theorems
one kind of movement to speak of.
-/

namespace Lexis

namespace Location

/-- The place after a text that is read at the given place. -/
def after (l : Location) (text : List Char) : Location :=
  text.foldl next l

/-- An empty text leaves a place where it is. -/
@[simp] theorem after_nil (l : Location) : l.after [] = l :=
  rfl

/-- The place after a text is reached through the place after its first character. -/
@[simp] theorem after_cons (l : Location) (c : Char) (text : List Char) :
    l.after (c :: text) = (l.next c).after text :=
  rfl

/-- Two texts in succession move a place one after the other. -/
theorem after_append (l : Location) (s t : List Char) : l.after (s ++ t) = (l.after s).after t := by
  simp [after, List.foldl_append]

end Location

namespace Cursor

/-- Moves over the next `n` characters, or over all that are left if there are fewer. -/
def advance (n : Nat) (c : Cursor) : Cursor :=
  { c with ahead := c.ahead.drop n, location := c.location.after (c.ahead.take n) }

/-- Moving over characters takes them from those ahead. -/
@[simp] theorem ahead_advance (n : Nat) (c : Cursor) : (c.advance n).ahead = c.ahead.drop n :=
  rfl

/-- Moving over characters moves the place over their text. -/
@[simp] theorem location_advance (n : Nat) (c : Cursor) :
    (c.advance n).location = c.location.after (c.ahead.take n) :=
  rfl

/-- Moving over no character is not moving. -/
@[simp] theorem advance_zero (c : Cursor) : c.advance 0 = c := by
  simp [advance]

/-- Two movements in succession are one. -/
theorem advance_advance (m n : Nat) (c : Cursor) :
    (c.advance m).advance n = c.advance (m + n) := by
  simp only [advance, List.drop_drop, Cursor.mk.injEq, true_and]
  rw [← Location.after_append, List.take_add]

/-- Where nothing is ahead, asking for the next character fails and names the place. -/
theorem peek_of_nil {c : Cursor} (hahead : c.ahead = []) :
    c.peek = .error (.prematureEnd c.location) := by
  simp only [peek, hahead]

/-- Where a character is ahead, the first one is the next character. -/
theorem peek_of_cons {c : Cursor} {next : Char} {rest : List Char}
    (hahead : c.ahead = next :: rest) : c.peek = .ok next := by
  simp only [peek, hahead]

/-- Moving past the next character is moving over one character. -/
theorem bump_eq_advance {c : Cursor} {next : Char} {rest : List Char}
    (hahead : c.ahead = next :: rest) : c.bump next = c.advance 1 := by
  simp [bump, advance, hahead]

/-- Where nothing is ahead, reading a character fails and names the place. -/
theorem read_of_nil {c : Cursor} (hahead : c.ahead = []) :
    c.read = .error (.prematureEnd c.location) := by
  simp only [read, peek_of_nil hahead]

/-- Where a character is ahead, reading takes it and moves over it. -/
theorem read_of_cons {c : Cursor} {next : Char} {rest : List Char}
    (hahead : c.ahead = next :: rest) : c.read = .ok (next, c.advance 1) := by
  simp only [read, peek_of_cons hahead, bump_eq_advance hahead]

/-- Where nothing is ahead, reading on adds nothing and does not move. -/
theorem eatWhile_of_nil (p : Char → Bool) (buffer : String) {c : Cursor} (hahead : c.ahead = []) :
    c.eatWhile p buffer = (buffer, c) := by
  rw [eatWhile]
  split
  · rfl
  · next hpeek => simp [peek_of_nil hahead] at hpeek

/-- Where a character is ahead, it decides whether reading on takes it or stops. -/
theorem eatWhile_of_cons (p : Char → Bool) (buffer : String) {c : Cursor} {next : Char}
    {rest : List Char} (hahead : c.ahead = next :: rest) :
    c.eatWhile p buffer =
      if p next then (c.bump next).eatWhile p (buffer.push next) else (buffer, c) := by
  rw [eatWhile]
  split
  · next hpeek => simp [peek_of_cons hahead] at hpeek
  · next found hpeek =>
    obtain rfl : next = found := by simpa [peek_of_cons hahead] using hpeek
    rfl

/-- Reading on takes the longest run of characters that satisfy the test. -/
theorem eatWhile_eq (p : Char → Bool) (buffer : String) (c : Cursor) :
    c.eatWhile p buffer =
      (buffer ++ String.ofList (c.ahead.takeWhile p),
        c.advance (c.ahead.takeWhile p).length) := by
  generalize hahead : c.ahead = ahead
  induction ahead generalizing c buffer with
  | nil => simp [eatWhile_of_nil p buffer hahead]
  | cons next rest ih =>
    rw [eatWhile_of_cons p buffer hahead]
    by_cases hp : p next = true
    · have hrest : (c.bump next).ahead = rest := by simp [bump, hahead]
      rw [if_pos hp, ih _ _ hrest, List.takeWhile_cons_of_pos hp, bump_eq_advance hahead,
        advance_advance, List.length_cons, Nat.add_comm 1, String.ofList_cons,
        ← String.append_assoc, String.append_singleton]
    · rw [if_neg hp, List.takeWhile_cons_of_neg hp]
      simp

/-- Where nothing is ahead, skipping white space does not move. -/
theorem skipWhiteSpace_of_nil {c : Cursor} (hahead : c.ahead = []) : c.skipWhiteSpace = c := by
  rw [skipWhiteSpace]
  split
  · rfl
  · next hpeek => simp [peek_of_nil hahead] at hpeek

/-- Where a character is ahead, it decides whether skipping white space moves over it or stops. -/
theorem skipWhiteSpace_of_cons {c : Cursor} {next : Char} {rest : List Char}
    (hahead : c.ahead = next :: rest) :
    c.skipWhiteSpace = if Text.isWhiteSpace next then (c.bump next).skipWhiteSpace else c := by
  rw [skipWhiteSpace]
  split
  · next hpeek => simp [peek_of_cons hahead] at hpeek
  · next found hpeek =>
    obtain rfl : next = found := by simpa [peek_of_cons hahead] using hpeek
    rfl

/-- Skipping white space takes the longest run of white space. -/
theorem skipWhiteSpace_eq (c : Cursor) :
    c.skipWhiteSpace = c.advance (c.ahead.takeWhile Text.isWhiteSpace).length := by
  generalize hahead : c.ahead = ahead
  induction ahead generalizing c with
  | nil => simp [skipWhiteSpace_of_nil hahead]
  | cons next rest ih =>
    rw [skipWhiteSpace_of_cons hahead]
    by_cases hp : Text.isWhiteSpace next = true
    · have hrest : (c.bump next).ahead = rest := by simp [bump, hahead]
      rw [if_pos hp, ih _ hrest, List.takeWhile_cons_of_pos hp, bump_eq_advance hahead,
        advance_advance, List.length_cons, Nat.add_comm 1]
    · rw [if_neg hp, List.takeWhile_cons_of_neg hp]
      simp

/-- Dropping as many characters as were taken leaves what `dropWhile` leaves. -/
theorem drop_length_takeWhile (p : Char → Bool) (l : List Char) :
    l.drop (l.takeWhile p).length = l.dropWhile p := by
  induction l with
  | nil => rfl
  | cons c l ih => by_cases hc : p c <;> simp [hc, ih]

end Cursor

end Lexis
