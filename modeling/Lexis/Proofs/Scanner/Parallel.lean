import Lexis.Proofs.Scanner.Requests
import Lexis.Proofs.Source.Translation

/-!
# Scanners in parallel

A scanner that stands behind some text has no memory of it. If another scanner reads only what lies
behind that text, both give the same answers from there on, and their places correspond: those of
the second are counted from where it began.
-/

namespace Lexis

/-- The error with another place in it. -/
def LexError.movedTo (place : Location) : LexError → LexError
  | unterminatedString _ => unterminatedString place
  | invalidToken text _ => invalidToken text place
  | prematureEnd _ => prematureEnd place

/-- The place `m` of a text that stands behind `front` is the place `l` of both together. -/
def Location.Shifted (front text : List Char) (m l : Location) : Prop :=
  ∃ done, done <+: text ∧ m = .behind done ∧ l = .behind (front ++ done)

/-- Two answers are the same, but that the place of an error is shifted. -/
inductive Relocated (front text : List Char) {α : Type} :
    Except LexError α → Except LexError α → Prop
  /-- What is not an error is not changed. -/
  | ok (x : α) : Relocated front text (.ok x) (.ok x)
  /-- An error has another place. -/
  | error {error : LexError} {place : Location}
      (hplace : Location.Shifted front text error.location place) :
      Relocated front text (.error error) (.error (error.movedTo place))

/-- Two answers that differ in the place of an error only are the same if one of them is no
error. -/
theorem Relocated.eq_ok {front text : List Char} {α : Type} {x : α} {r : Except LexError α}
    (h : Relocated front text (.ok x) r) : r = .ok x := by
  cases h
  rfl

/-- What is done with a token does not touch the place of an error. -/
theorem Relocated.map {front text : List Char} {α β : Type} {r r' : Except LexError α}
    (h : Relocated front text r r') (f : α → β) : Relocated front text (r.map f) (r'.map f) := by
  cases h with
  | ok x => exact .ok (f x)
  | error hplace => exact .error hplace

/-- What can be read at one place can be read at another. -/
theorem Reads.movedTo {start : Location} {text rest : List Char} {result : Except LexError Token}
    (h : Reads start text rest result) (place : Location) :
    Reads place text rest (result.mapError (·.movedTo place)) := by
  cases h with
  | token hspells hends => exact .token hspells hends
  | unterminated hbody => exact .unterminated hbody
  | misfit hfirst hrun => exact .misfit hfirst hrun

namespace Scanner

/-- Scanners with the same text ahead find the same in it. -/
theorem Finds.of_ahead_eq {s t : Scanner} {gap text rest : List Char}
    {result : Except LexError Token} (h : t.Finds gap text rest result)
    (hahead : s.cursor.ahead = t.cursor.ahead) :
    s.Finds gap text rest (result.mapError (·.movedTo (s.location.after gap))) where
  ahead := by rw [hahead, h.ahead]
  space := h.space
  reads := h.reads.movedTo _

/-- The scanner `t` of `text` and the scanner `s` of the source, where `text` stands behind `front`,
have come equally far in it. -/
structure Parallel (source : String) (front : List Char) (text : String) (t s : Scanner) :
    Prop where
  /-- The source consists of the front and the text. -/
  source_eq : source.toList = front ++ text.toList
  /-- What one has read of the text, the other has read too. -/
  hasRead : ∃ done, t.HasRead text done ∧ s.HasRead source (front ++ done)

namespace Parallel

variable {source : String} {front : List Char} {text : String} {t s : Scanner}

/-- A new scanner of what is ahead of a scanner is parallel to it. -/
theorem of_hasRead (h : s.HasRead source front) (htext : text.toList = s.cursor.ahead) :
    Parallel source front text (.ofSource text) s where
  source_eq := by rw [h.text, htext]
  hasRead := ⟨[], Cursor.hasRead_ofSource text, by simpa using h⟩

/-- Parallel scanners have the same text ahead. -/
theorem ahead_eq (h : Parallel source front text t s) : s.cursor.ahead = t.cursor.ahead := by
  obtain ⟨hsource, done, ht, hs⟩ := h
  have hboth : front ++ done ++ s.cursor.ahead = front ++ done ++ t.cursor.ahead := by
    rw [← hs.text, hsource, ht.text, List.append_assoc]
  exact List.append_cancel_left hboth

/-- The places of parallel scanners correspond. -/
theorem location (h : Parallel source front text t s) :
    Location.Shifted front text.toList t.location s.location := by
  obtain ⟨hsource, done, ht, hs⟩ := h
  exact ⟨done, ⟨t.cursor.ahead, ht.text.symm⟩, ht.location_eq, hs.location_eq⟩

/-- Parallel scanners that make the same movement are parallel again. -/
theorem advance (h : Parallel source front text t s) (n : ℕ) {t' s' : Scanner}
    (ht : t'.cursor = t.cursor.advance n) (hs : s'.cursor = s.cursor.advance n) :
    Parallel source front text t' s' := by
  have hahead := h.ahead_eq
  obtain ⟨hsource, done, htread, hsread⟩ := h
  refine ⟨hsource, done ++ t.cursor.ahead.take n, ?_, ?_⟩
  · rw [HasRead, ht]
    exact htread.advance n
  · rw [HasRead, hs, ← List.append_assoc, ← hahead]
    exact hsread.advance n

/-- The places behind the white space ahead of parallel scanners correspond. -/
theorem after (h : Parallel source front text t s) {gap rest : List Char}
    (hgap : t.cursor.ahead = gap ++ rest) :
    Location.Shifted front text.toList (t.location.after gap) (s.location.after gap) := by
  obtain ⟨hsource, done, ht, hs⟩ := h
  refine ⟨done ++ gap, ⟨rest, by rw [ht.text, hgap, List.append_assoc]⟩, ht.after_eq gap, ?_⟩
  rw [hs.after_eq, List.append_assoc]

/-- A request for a token keeps scanners parallel and gets the same answer, and the token starts at
corresponding places. -/
theorem nextToken (h : Parallel source front text t s) :
    Parallel source front text t.nextToken.scanner s.nextToken.scanner ∧
      Location.Shifted front text.toList t.nextToken.scanner.tokenStart
        s.nextToken.scanner.tokenStart ∧
      Relocated front text.toList t.nextToken.answer s.nextToken.answer := by
  have hahead := h.ahead_eq
  rcases t.isSpace_or_finds with hspace | ⟨gap, read, rest, result, hfinds⟩
  · rw [nextToken_of_isSpace hspace, nextToken_of_isSpace (s := s) (hahead ▸ hspace), hahead]
    exact ⟨h.advance _ rfl rfl, h.after (List.append_nil _).symm, .ok none⟩
  · obtain ⟨gathered, hnext⟩ := hfinds.nextToken_eq
    obtain ⟨gathered', hnext'⟩ := (hfinds.of_ahead_eq hahead).nextToken_eq
    have hplace := h.after hfinds.ahead
    rw [hnext, hnext']
    refine ⟨h.advance _ rfl rfl, hplace, ?_⟩
    cases result with
    | ok token => exact .ok (some token)
    | error error =>
      have hlocation : error.location = t.location.after gap := hfinds.reads.error_location
      exact .error (hlocation ▸ hplace)

/-- Any number of requests keeps scanners parallel. -/
theorem afterRequests (h : Parallel source front text t s) (n : ℕ) :
    Parallel source front text (t.afterRequests n) (s.afterRequests n) := by
  induction n generalizing t s with
  | zero => exact h
  | succ n ih => exact ih h.nextToken.1

end Parallel

end Scanner

end Lexis
