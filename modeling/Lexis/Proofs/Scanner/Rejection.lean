import Lexis.Proofs.Scanner.Exits
import Lexis.Proofs.Scanner.Places

/-!
# Rejected sources

A source is rejected for one of two reasons: a string is opened and never closed, or a run begins
like no token. Either reason is stated here about the text, behind a front that can be scanned.
-/

namespace Lexis

/-- The source is `front` followed by `back`, and scanning it from the start yields only tokens
and then white space up to `back`. -/
def ScannedUpTo (source : String) (front back : List Char) : Prop :=
  source.toList = front ++ back ∧
    ∃ tokens s gap, Scanner.Scans (.ofSource source) tokens s ∧ Text.IsSpace gap ∧
      s.cursor.ahead = gap ++ back

/-- Behind `front` a string is opened and never closed. -/
def OpenString (source : String) (front : List Char) : Prop :=
  ∃ body, ScannedUpTo source front (Text.quoteMark :: body) ∧ Text.quoteMark ∉ body

/-- Behind `front` stands the bare run `run`, which begins like no token. -/
def MisfitRun (source : String) (front run : List Char) : Prop :=
  ∃ first more rest, run = first :: more ∧ ScannedUpTo source front (run ++ rest) ∧
    Text.Misfit first ∧ Text.IsRun Text.isBare run rest

/-- A reading behind the front that was scanned decides how a collection of tokens fails. -/
theorem ScannedUpTo.tokenize_eq_error {source : String} {front text rest : List Char}
    {error : LexError} (h : ScannedUpTo source front (text ++ rest))
    (hread : Reads (.behind front) text rest (.error error)) :
    tokenize source = .error error := by
  obtain ⟨hsource, tokens, s, gap, hscans, hgap, hahead⟩ := h
  rw [tokenize, Scanner.tryCollect_eq_error_iff rfl]
  refine ⟨tokens, s, hscans, ?_⟩
  have hstart : (Scanner.ofSource source).HasRead source [] := Cursor.hasRead_ofSource source
  obtain ⟨more, hmore⟩ := hstart.scans hscans
  have hfront : more ++ gap = front := by
    have htext := hmore.text
    rw [hsource, hahead, List.nil_append, ← List.append_assoc more gap] at htext
    exact (List.append_cancel_right htext).symm
  have hlocation : s.location.after gap = .behind front := by
    rw [hmore.after_eq, List.nil_append, hfront]
  have hfinds : s.Finds gap text rest (.error error) := ⟨hahead, hgap, hlocation ▸ hread⟩
  exact hfinds.answer_eq

/-- A source is rejected exactly for one of the two reasons, with the error that names it and its
place. -/
theorem tokenize_eq_error_iff (source : String) (error : LexError) :
    tokenize source = .error error ↔
      (∃ front, OpenString source front ∧ error = .unterminatedString (.behind front)) ∨
      ∃ front run, MisfitRun source front run ∧
        error = .invalidToken (String.ofList run) (.behind front) := by
  constructor
  · intro herror
    rw [tokenize, Scanner.tryCollect_eq_error_iff rfl] at herror
    obtain ⟨tokens, s, hscans, hanswer⟩ := herror
    have hstart : (Scanner.ofSource source).HasRead source [] := Cursor.hasRead_ofSource source
    obtain ⟨more, hmore⟩ := hstart.scans hscans
    rw [List.nil_append] at hmore
    obtain ⟨gap, text, rest, hahead, hgap, hread⟩ := Scanner.exists_finds_of_error hanswer
    have hscanned : ScannedUpTo source (more ++ gap) (text ++ rest) :=
      ⟨by rw [hmore.text, hahead, List.append_assoc], tokens, s, gap, hscans, hgap, hahead⟩
    rw [hmore.after_eq] at hread
    cases hread with
    | @unterminated body hbody =>
      exact Or.inl ⟨_, ⟨body, by simpa using hscanned, hbody⟩, rfl⟩
    | @misfit first run rest hfirst hrun =>
      exact Or.inr ⟨_, _, ⟨first, run, rest, rfl, hscanned, hfirst, hrun⟩, rfl⟩
  · rintro (⟨front, ⟨body, hscanned, hbody⟩, rfl⟩ |
      ⟨front, run, ⟨first, more, rest, rfl, hscanned, hfirst, hrun⟩, rfl⟩)
    · rw [← List.append_nil (Text.quoteMark :: body)] at hscanned
      exact hscanned.tokenize_eq_error (.unterminated hbody)
    · exact hscanned.tokenize_eq_error (.misfit hfirst hrun)

/-- Every source is accepted, or has a string that is never closed, or a misfit run. -/
theorem accepted_or_rejected (source : String) :
    (∃ tokens, tokenize source = .ok tokens) ∨ (∃ front, OpenString source front) ∨
      ∃ front run, MisfitRun source front run := by
  cases htokenize : tokenize source with
  | ok tokens => exact Or.inl ⟨tokens, rfl⟩
  | error error =>
    rcases (tokenize_eq_error_iff source error).mp htokenize with
      ⟨front, hopen, _⟩ | ⟨front, run, hmisfit, _⟩
    · exact Or.inr (Or.inl ⟨front, hopen⟩)
    · exact Or.inr (Or.inr ⟨front, run, hmisfit⟩)

/-- A source is rejected exactly if, behind a front that can be scanned, a string is never closed
or a run begins like no token, and the error names that string or the whole run at its place. One
of acceptance and the two reasons applies to each source, and only one. In no state of a scanner
does a request report that the text ended too soon, and in none does it take an exit that a reader
keeps for texts it is not chosen for. -/
theorem rejected_iff_openString_or_misfitRun (source : String) :
    (∀ error, tokenize source = .error error ↔
      (∃ front, OpenString source front ∧ error = .unterminatedString (.behind front)) ∨
      ∃ front run, MisfitRun source front run ∧
        error = .invalidToken (String.ofList run) (.behind front)) ∧
    ((∃ tokens, tokenize source = .ok tokens) ∨ (∃ front, OpenString source front) ∨
      ∃ front run, MisfitRun source front run) ∧
    ¬((∃ tokens, tokenize source = .ok tokens) ∧ ∃ front, OpenString source front) ∧
    ¬((∃ tokens, tokenize source = .ok tokens) ∧ ∃ front run, MisfitRun source front run) ∧
    ¬((∃ front, OpenString source front) ∧ ∃ front run, MisfitRun source front run) ∧
    (∀ (s : Scanner) (l : Location), ¬s.Reports (.prematureEnd l)) ∧
    (∀ (s : Scanner) (first : Char), s.toTokenStart.cursor.peek = .ok first →
      s.toTokenStart.Ready first) ∧
    ∀ (c : Cursor) (next : Char), c.peek = .ok next → ∃ after, c.read = .ok (next, after) := by
  have hiff := tokenize_eq_error_iff source
  have hopen {front : List Char} (h : OpenString source front) :
      tokenize source = .error (.unterminatedString (.behind front)) :=
    (hiff _).mpr (Or.inl ⟨front, h, rfl⟩)
  have hmisfit {front run : List Char} (h : MisfitRun source front run) :
      tokenize source = .error (.invalidToken (String.ofList run) (.behind front)) :=
    (hiff _).mpr (Or.inr ⟨front, run, h, rfl⟩)
  refine ⟨hiff, accepted_or_rejected source, ?_, ?_, ?_, ?_, ?_, ?_⟩
  · rintro ⟨⟨tokens, htokens⟩, front, h⟩
    rw [hopen h] at htokens
    cases htokens
  · rintro ⟨⟨tokens, htokens⟩, front, run, h⟩
    rw [hmisfit h] at htokens
    cases htokens
  · rintro ⟨⟨front, h⟩, front', run, h'⟩
    have herror := (hopen h).symm.trans (hmisfit h')
    cases herror
  · exact fun s l => s.not_reports_prematureEnd l
  · exact fun s first hpeek => Scanner.ready_toTokenStart hpeek
  · exact fun c next hpeek => ⟨_, by rw [Cursor.read, hpeek]⟩

end Lexis
