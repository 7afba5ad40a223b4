import Lexis.Proofs.Source.Positions
import Lexis.Proofs.Text.Runs

/-!
# Whatever moves a cursor, nothing is lost

Reading on and skipping white space move past characters by themselves, without `Cursor.read`. They
come to the same as reading one by one: as many calls of `read` give the characters that they take,
and lead to the cursor that they lead to. So does every sequence of operations. The characters that
the operations of a sequence take, one after the other, are therefore the text of the source up to
the place that the cursor has reached.
-/

namespace Lexis

namespace Text

/-- `run` is the longest beginning of `text` all of whose characters satisfy `p`. -/
structure IsLongestPrefix (p : Char → Bool) (run text : List Char) : Prop where
  /-- The text begins with the run. -/
  isPrefix : run <+: text
  /-- All characters of the run satisfy `p`. -/
  inside : ∀ c ∈ run, p c = true
  /-- Any other beginning of the text with such characters is part of the run. -/
  longest : ∀ other, other <+: text → (∀ c ∈ other, p c = true) → other <+: run

/-- A run that the text behind it cannot extend is the longest beginning. -/
theorem IsRun.isLongestPrefix {p : Char → Bool} {run rest : List Char} (h : IsRun p run rest) :
    IsLongestPrefix p run (run ++ rest) where
  isPrefix := List.prefix_append run rest
  inside := h.inside
  longest := by
    rintro other ⟨more, htext⟩ hother
    have hrun : run = other ++ more.takeWhile p := by
      rw [← h.takeWhile_eq, ← htext, List.takeWhile_append_of_pos hother]
    exact ⟨_, hrun.symm⟩

end Text

namespace Cursor

/-- Reads `n` characters, each by a call of its own. -/
def readMany : ℕ → Cursor → Except LexError (List Char × Cursor)
  | 0, c => .ok ([], c)
  | n + 1, c => do
    let (next, middle) ← c.read
    let (later, after) ← middle.readMany n
    return (next :: later, after)

/-- Reading one by one as many characters as a text has gives the text, if it is the next one ahead,
and moves over it. -/
theorem readMany_of_isPrefix {c : Cursor} {text : List Char} (htext : text <+: c.ahead) :
    c.readMany text.length = .ok (text, c.advance text.length) := by
  induction text generalizing c with
  | nil => simp [readMany]
  | cons next text ih =>
    -- The first call gives `next`. The others find the rest of the text ahead of the cursor.
    obtain ⟨rest, hrest⟩ := htext
    have hread : c.read = .ok (next, c.advance 1) := read_of_cons hrest.symm
    have hahead : (c.advance 1).ahead = text ++ rest := by simp [← hrest]
    have hlater := ih (c := c.advance 1) (hahead ▸ List.prefix_append text rest)
    rw [advance_advance, Nat.add_comm] at hlater
    simp [readMany, hread, hlater, bind, Except.bind, pure, Except.pure]

/-- The text is the next one that `c` has ahead, and `after` is where moving over it leads. -/
structure Passes (c : Cursor) (text : List Char) (after : Cursor) : Prop where
  /-- The text lies ahead of the first cursor. -/
  isPrefix : text <+: c.ahead
  /-- The second cursor has moved over as many characters as the text has. -/
  after_eq : after = c.advance text.length

/-- A cursor that stays where it is passes nothing. -/
theorem passes_nil (c : Cursor) : c.Passes [] c :=
  ⟨List.nil_prefix, c.advance_zero.symm⟩

/-- A cursor that moves over the longest run of characters that satisfy `p` passes that run. -/
theorem passes_takeWhile (p : Char → Bool) (c : Cursor) :
    c.Passes (c.ahead.takeWhile p) (c.advance (c.ahead.takeWhile p).length) :=
  ⟨List.takeWhile_prefix p, rfl⟩

namespace Passes

variable {c middle after : Cursor} {text later : List Char}

/-- What lay ahead is what has been passed and what still lies ahead. -/
theorem ahead_eq (h : c.Passes text after) : c.ahead = text ++ after.ahead := by
  obtain ⟨rest, hrest⟩ := h.isPrefix
  rw [h.after_eq, ahead_advance, ← hrest, List.drop_left]

/-- What has been passed are the characters ahead that no longer lie ahead. -/
theorem take_eq (h : c.Passes text after) :
    c.ahead.take (c.ahead.length - after.ahead.length) = text := by
  rw [h.ahead_eq, List.length_append, Nat.add_sub_cancel, List.take_left]

/-- Two texts that are passed one after the other are passed as one. -/
theorem trans (h : c.Passes text middle) (hlater : middle.Passes later after) :
    c.Passes (text ++ later) after where
  isPrefix := ⟨after.ahead, by rw [h.ahead_eq, hlater.ahead_eq, List.append_assoc]⟩
  after_eq := by rw [hlater.after_eq, h.after_eq, advance_advance, List.length_append]

/-- A text that is passed is what reading as many characters one by one gives. -/
theorem readMany_eq (h : c.Passes text after) : c.readMany text.length = .ok (text, after) := by
  rw [readMany_of_isPrefix h.isPrefix, h.after_eq]

/-- What is passed has been read. -/
theorem hasRead {source : String} {consumed : List Char} (h : c.Passes text after)
    (hread : c.HasRead source consumed) : after.HasRead source (consumed ++ text) := by
  have hmoved := hread.advance text.length
  rwa [← List.prefix_iff_eq_take.mp h.isPrefix, ← h.after_eq] at hmoved

end Passes

/-- The characters that an operation takes from the text: those that it returns, adds to its buffer
or leaves behind. -/
def Move.taken (c : Cursor) : Move → List Char
  | .peek => []
  | .read =>
    match c.read with
    | .error _ => []
    | .ok (next, _) => [next]
  | .eatWhile p buffer => (c.eatWhile p buffer).1.toList.drop buffer.length
  | .skipWhiteSpace => c.ahead.take (c.ahead.length - c.skipWhiteSpace.ahead.length)

/-- The characters that a sequence of operations takes, in their order. -/
def taken (c : Cursor) : List Move → List Char
  | [] => []
  | m :: moves => m.taken c ++ (m.apply c).taken moves

/-- The characters that reading on takes are the longest run ahead that satisfies the test. -/
theorem Move.taken_eatWhile (p : Char → Bool) (buffer : String) (c : Cursor) :
    (Move.eatWhile p buffer).taken c = c.ahead.takeWhile p := by
  simp [taken, eatWhile_eq, ← String.length_toList]

/-- The characters that skipping white space takes are the longest run of white space ahead. -/
theorem Move.taken_skipWhiteSpace (c : Cursor) :
    Move.skipWhiteSpace.taken c = c.ahead.takeWhile Text.isWhiteSpace := by
  rw [taken, skipWhiteSpace_eq]
  exact (c.passes_takeWhile Text.isWhiteSpace).take_eq

/-- Every operation passes the characters that it takes. -/
theorem Move.passes (c : Cursor) (m : Move) : c.Passes (m.taken c) (m.apply c) := by
  cases m with
  | peek => exact c.passes_nil
  | read =>
    cases hahead : c.ahead with
    | nil => simpa [taken, apply, read_of_nil hahead] using c.passes_nil
    | cons next rest =>
      have hnext : [next] <+: c.ahead := hahead ▸ List.prefix_append [next] rest
      simpa [taken, apply, read_of_cons hahead] using Passes.mk hnext rfl
  | eatWhile p buffer =>
    rw [taken_eatWhile, apply, eatWhile_eq]
    exact c.passes_takeWhile p
  | skipWhiteSpace =>
    rw [taken_skipWhiteSpace, apply, skipWhiteSpace_eq]
    exact c.passes_takeWhile Text.isWhiteSpace

/-- Every sequence of operations passes the characters that it takes: each operation begins where
the one before it stopped. -/
theorem passes_moved (c : Cursor) (moves : List Move) :
    c.Passes (c.taken moves) (c.moved moves) := by
  induction moves generalizing c with
  | nil => exact c.passes_nil
  | cons m moves ih => exact (m.passes c).trans (ih (m.apply c))

/-- Reading on takes `text`, as reading one by one does. -/
structure TakesRun (p : Char → Bool) (buffer : String) (text : List Char) (c : Cursor) : Prop where
  /-- The text is the longest one ahead whose characters satisfy `p`. -/
  longest : Text.IsLongestPrefix p text c.ahead
  /-- The text is added to the buffer, which keeps what it held. -/
  buffer_eq : (c.eatWhile p buffer).1 = buffer ++ String.ofList text
  /-- As many calls of `read` give the same characters, and lead to the same cursor. -/
  readMany_eq : c.readMany text.length = .ok (text, (c.eatWhile p buffer).2)
  /-- Reading on once more takes nothing and does not move, whatever the buffer holds. -/
  again : ∀ other, (c.eatWhile p buffer).2.eatWhile p other = (other, (c.eatWhile p buffer).2)

/-- Reading on takes the longest run of characters ahead that satisfy the test, as reading one by
one does. -/
theorem takesRun (p : Char → Bool) (buffer : String) (c : Cursor) :
    c.TakesRun p buffer (c.ahead.takeWhile p) := by
  have hrun := Text.isRun_takeWhile p c.ahead
  constructor
  case longest => simpa using hrun.isLongestPrefix
  case buffer_eq => rw [eatWhile_eq]
  case readMany_eq =>
    rw [eatWhile_eq]
    exact (c.passes_takeWhile p).readMany_eq
  case again =>
    intro other
    have hbehind : (c.eatWhile p buffer).2.ahead = c.ahead.dropWhile p := by
      rw [eatWhile_eq, ahead_advance, drop_length_takeWhile]
    rw [eatWhile_eq p other, hbehind, hrun.takeWhile_rest]
    simp

/-- Skipping white space leads where reading on over white space leads. -/
theorem skipWhiteSpace_eq_eatWhile (buffer : String) (c : Cursor) :
    c.skipWhiteSpace = (c.eatWhile Text.isWhiteSpace buffer).2 := by
  rw [skipWhiteSpace_eq, eatWhile_eq]

/-- Behind white space that has been skipped there is no more to skip. -/
theorem skipWhiteSpace_again (c : Cursor) :
    c.skipWhiteSpace.skipWhiteSpace = c.skipWhiteSpace := by
  have hagain := (c.takesRun Text.isWhiteSpace "").again ""
  rw [← skipWhiteSpace_eq_eatWhile] at hagain
  rw [skipWhiteSpace_eq_eatWhile "" c.skipWhiteSpace, hagain]

/-- Reading on and skipping white space come to reading one by one, and a second time they do
nothing. So whatever operations a cursor goes through, reading one by one gives the characters that
they take and leads where they lead. From the start of a source, these characters are its text up to
the offset of the cursor. -/
theorem movements_lose_nothing (source : String) (c : Cursor) (moves : List Move) :
    (∀ p buffer, ∃ text, c.TakesRun p buffer text) ∧
      (∀ buffer, c.skipWhiteSpace = (c.eatWhile Text.isWhiteSpace buffer).2) ∧
      c.skipWhiteSpace.skipWhiteSpace = c.skipWhiteSpace ∧
      c.ahead = c.taken moves ++ (c.moved moves).ahead ∧
      c.readMany (c.taken moves).length = .ok (c.taken moves, c.moved moves) ∧
      ∃ p : source.Pos, p.offset.byteIdx = ((ofSource source).moved moves).location.offset ∧
        p.Splits (String.ofList ((ofSource source).taken moves))
          (String.ofList ((ofSource source).moved moves).ahead) := by
  have hpasses : c.Passes (c.taken moves) (c.moved moves) := c.passes_moved moves
  have hread : ((ofSource source).moved moves).HasRead source ((ofSource source).taken moves) :=
    ((ofSource source).passes_moved moves).hasRead (hasRead_ofSource source)
  refine ⟨?_, ?_, c.skipWhiteSpace_again, hpasses.ahead_eq, hpasses.readMany_eq,
    hread.exists_splits⟩
  · intro p buffer
    exact ⟨_, c.takesRun p buffer⟩
  · intro buffer
    exact c.skipWhiteSpace_eq_eatWhile buffer

/-- What the buffer of the second operation held before does not count among what it takes. -/
example : (ofSource "ab \n c").taken [.read, .eatWhile Char.isAlpha "x", .read, .skipWhiteSpace] =
    "ab \n ".toList := by
  decide +kernel

end Cursor

end Lexis
