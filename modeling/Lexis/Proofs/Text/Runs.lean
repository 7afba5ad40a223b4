import Lexis.Source.Movement

/-!
# Longest runs

The readers of a scanner stop at the first character that fails a test. `IsRun` says the same
without a loop: the run passes the test, and the text behind it does not begin with a character
that does. A text has exactly one run at its start.
-/

namespace Lexis.Text

/-- `run` consists of characters that satisfy `p`, and `rest`, which follows, cannot extend it. -/
structure IsRun (p : Char → Bool) (run rest : List Char) : Prop where
  /-- Every character of the run passes the test. -/
  inside : ∀ c ∈ run, p c = true
  /-- The next character, if there is one, does not pass the test. -/
  stops : ∀ c ∈ rest.head?, p c = false

instance (p : Char → Bool) (run rest : List Char) : Decidable (IsRun p run rest) :=
  decidable_of_iff (run.all p = true ∧ rest.head?.all (!p ·) = true)
    ⟨fun h => ⟨by simpa using h.1, by simpa [Option.all_eq_true] using h.2⟩,
      fun h => ⟨by simpa using h.inside, by simpa [Option.all_eq_true] using h.stops⟩⟩

/-- The longest run at the start of a text is what `takeWhile` takes. -/
theorem isRun_takeWhile (p : Char → Bool) (text : List Char) :
    IsRun p (text.takeWhile p) (text.dropWhile p) where
  inside := fun c hc => List.all_eq_true.mp List.all_takeWhile c hc
  stops := by
    intro c hc
    have h := List.head?_dropWhile_not p text
    rw [Option.mem_def.mp hc] at h
    simpa using h

namespace IsRun

variable {p : Char → Bool} {run rest : List Char}

/-- The text that follows a run holds no more of it. -/
theorem takeWhile_rest (h : IsRun p run rest) : rest.takeWhile p = [] := by
  cases rest with
  | nil => rfl
  | cons c rest => simp [h.stops c (by simp)]

/-- A run is what `takeWhile` takes from the text that begins with it. -/
theorem takeWhile_eq (h : IsRun p run rest) : (run ++ rest).takeWhile p = run := by
  rw [List.takeWhile_append_of_pos h.inside, h.takeWhile_rest, List.append_nil]

/-- What `dropWhile` leaves of a text that begins with a run is what follows the run. -/
theorem dropWhile_eq (h : IsRun p run rest) : (run ++ rest).dropWhile p = rest := by
  rw [List.dropWhile_append_of_pos h.inside]
  cases rest with
  | nil => rfl
  | cons c rest => simp [h.stops c (by simp)]

/-- There is only one run at the start of a text. -/
theorem unique {run' rest' : List Char} (h : IsRun p run rest) (h' : IsRun p run' rest')
    (htext : run ++ rest = run' ++ rest') : run = run' ∧ rest = rest' := by
  have hrun : run = run' := by rw [← h.takeWhile_eq, htext, h'.takeWhile_eq]
  subst hrun
  exact ⟨rfl, List.append_cancel_left htext⟩

end IsRun

/-- A text of white space only. -/
def IsSpace (text : List Char) : Prop :=
  ∀ c ∈ text, isWhiteSpace c = true

instance (text : List Char) : Decidable (IsSpace text) :=
  decidable_of_iff (text.all isWhiteSpace = true) List.all_eq_true

/-- White space up to another character is a longest run of it. -/
theorem IsSpace.isRun {gap rest : List Char} (hgap : IsSpace gap)
    (hrest : ∀ c ∈ rest.head?, isWhiteSpace c = false) : IsRun isWhiteSpace gap rest :=
  ⟨hgap, hrest⟩

end Lexis.Text
