import Mathlib.Data.List.Chain
import Lexis.Proofs.Scanner.Scans

/-!
# The accepted language

A source text is accepted exactly if it can be cut into white space and texts that spell tokens,
with white space wherever two neighbours would run together. There is at most one such cut, and
the tokens of the scanner are its tokens.
-/

namespace Lexis

/-- A token in a cut: the text that spells it and the white space behind that text. -/
structure Piece where
  /-- The text that spells the token. -/
  text : List Char
  /-- The token. -/
  token : Token
  /-- The white space up to the next token, or to the end of the text. -/
  gap : List Char

/-- A way to cut a text into tokens. -/
structure Cut where
  /-- The white space before the first token. -/
  gap : List Char
  /-- The tokens with their texts and the white space behind each. -/
  pieces : List Piece

/-- Two neighbours in a cut do not run together: white space follows a bare run, and it lies
between two numbers. -/
structure Piece.Separated (p q : Piece) : Prop where
  /-- A bare run ends only at white space. -/
  bare : p.token.kind = .name ∨ p.token.kind = .symbol → p.gap ≠ []
  /-- Two numbers in succession would be one. -/
  number : p.token.kind = .number → q.token.kind = .number → p.gap ≠ []

namespace Cut

/-- The text that is cut. -/
def text (k : Cut) : List Char :=
  k.gap ++ k.pieces.flatMap fun p => p.text ++ p.gap

/-- The tokens of a cut in their order. -/
def tokens (k : Cut) : List Token :=
  k.pieces.map Piece.token

/-- A cut is valid if its gaps are white space, its texts spell its tokens and no two neighbours
run together. -/
structure Valid (k : Cut) : Prop where
  /-- The first gap is white space. -/
  gap : Text.IsSpace k.gap
  /-- The other gaps are white space, and the texts spell the tokens. -/
  pieces : ∀ p ∈ k.pieces, Spells p.text p.token ∧ Text.IsSpace p.gap
  /-- Where one token ends and the next begins can be told. -/
  separated : k.pieces.IsChain Piece.Separated

/-- The cut of what follows the first token. -/
def behind (p : Piece) (ps : List Piece) : Cut where
  gap := p.gap
  pieces := ps

/-- A cut text begins with its first gap and the text of its first token. -/
theorem text_cons (gap : List Char) (p : Piece) (ps : List Piece) :
    (Cut.mk gap (p :: ps)).text = gap ++ (p.text ++ (behind p ps).text) := by
  simp [text, behind]

/-- What follows the first token of a valid cut is a valid cut. -/
theorem Valid.behind {gap : List Char} {p : Piece} {ps : List Piece}
    (h : (Cut.mk gap (p :: ps)).Valid) : (Cut.behind p ps).Valid where
  gap := (h.pieces p (by simp)).2
  pieces := fun q hq => h.pieces q (by simp [Cut.behind] at hq; simp [hq])
  separated := h.separated.tail

end Cut

/-- Only the text of a number begins with a digit. -/
theorem Spells.kind_eq_number_iff {first : Char} {run : List Char} {token : Token}
    (h : Spells (first :: run) token) :
    token.kind = .number ↔ Text.isDigit first = true := by
  generalize htext : first :: run = text at h
  cases h with
  | string hbody =>
    obtain ⟨rfl, _⟩ := List.cons.inj htext
    simp [Token.kind]
  | number hne hdigits hvalue =>
    subst htext
    simp [Token.kind, hdigits first (by simp)]
  | name hfirst hrun =>
    obtain ⟨rfl, _⟩ := List.cons.inj htext
    simp [Token.kind, Text.isDigit_of_isNameStart hfirst]
  | symbol hfirst hquote hrun =>
    obtain ⟨rfl, _⟩ := List.cons.inj htext
    simp [Token.kind, Text.isDigit_of_isSymbolStart hfirst]

/-- Every token may end at the end of the text. -/
@[simp] theorem Token.endsBefore_nil (token : Token) : token.EndsBefore [] := by
  cases token <;> simp [Token.EndsBefore, Token.kind]

/-- Every token may end before white space. -/
theorem Token.endsBefore_space (token : Token) {c : Char} {rest : List Char}
    (hc : Text.isWhiteSpace c = true) : token.EndsBefore (c :: rest) := by
  have hdigit : Text.isDigit c = false :=
    Bool.eq_false_iff.mpr fun h => by simp [Text.isWhiteSpace_of_isDigit h] at hc
  cases token <;> simp [Token.EndsBefore, Token.kind, Text.isBare, hc, hdigit]

namespace Cut.Valid

/-- In a valid cut every token ends where what follows cannot extend it. -/
theorem endsBefore {gap : List Char} {p : Piece} {ps : List Piece}
    (h : (Cut.mk gap (p :: ps)).Valid) : p.token.EndsBefore (Cut.behind p ps).text := by
  have hgap := (h.pieces p (by simp)).2
  cases hp : p.gap with
  | cons c more =>
    have hc : Text.isWhiteSpace c = true := hgap c (by simp [hp])
    simpa [Cut.text, Cut.behind, hp] using p.token.endsBefore_space hc
  | nil =>
    cases ps with
    | nil => simp [Cut.text, Cut.behind, hp]
    | cons q qs =>
      have hsep : Piece.Separated p q := h.separated.rel
      obtain ⟨first, run, htext, _⟩ := (h.pieces q (by simp)).1.exists_cons
      have hspells := (h.pieces q (by simp)).1
      rw [htext] at hspells
      have hbehind : (Cut.behind p (q :: qs)).text = first :: (run ++ (Cut.behind q qs).text) := by
        simp [Cut.text, Cut.behind, hp, htext]
      rw [hbehind]
      cases hkind : p.token.kind with
      | string => simp [Token.EndsBefore, hkind]
      | number =>
        have hq : q.token.kind ≠ .number := fun hq => hsep.number hkind hq hp
        simpa [Token.EndsBefore, hkind, hspells.kind_eq_number_iff] using hq
      | name => exact absurd hp (hsep.bare (Or.inl hkind))
      | symbol => exact absurd hp (hsep.bare (Or.inr hkind))

/-- A valid cut is extended at the front by a token that ends before it. -/
theorem cons {gap text : List Char} {token : Token} {k : Cut} (hgap : Text.IsSpace gap)
    (hspells : Spells text token) (hends : token.EndsBefore k.text) (hk : k.Valid) :
    (Cut.mk gap (⟨text, token, k.gap⟩ :: k.pieces)).Valid where
  gap := hgap
  pieces := by
    intro p hp
    rcases List.mem_cons.mp hp with rfl | hp
    · exact ⟨hspells, hk.gap⟩
    · exact hk.pieces p hp
  separated := by
    obtain ⟨kgap, pieces⟩ := k
    cases pieces with
    | nil => exact List.isChain_singleton _
    | cons q qs =>
      refine List.isChain_cons_cons.mpr ⟨?_, hk.separated⟩
      have hq := (hk.pieces q (by simp)).1
      obtain ⟨first, run, htext, hfirst⟩ := hq.exists_cons
      rw [htext] at hq
      constructor
      · rintro hbare rfl
        rcases hbare with hkind | hkind <;>
          simp [Token.EndsBefore, hkind, Cut.text, htext, Text.isBare, hfirst] at hends
      · rintro hnumber hnumber' rfl
        have hdigit := hq.kind_eq_number_iff.mp hnumber'
        simp [Token.EndsBefore, hnumber, Cut.text, htext, hdigit] at hends

/-- At the start of a text with a valid cut a scanner finds the first token of the cut. -/
theorem finds {gap : List Char} {p : Piece} {ps : List Piece}
    (h : (Cut.mk gap (p :: ps)).Valid) {s : Scanner}
    (hahead : s.cursor.ahead = (Cut.mk gap (p :: ps)).text) :
    s.Finds gap p.text (Cut.behind p ps).text (.ok p.token) where
  ahead := by rw [hahead, Cut.text_cons]
  space := h.gap
  reads := .token (h.pieces p (by simp)).1 h.endsBefore

/-- A scanner goes through the tokens of any valid cut of the text ahead. -/
theorem exists_scans {k : Cut} (h : k.Valid) {s : Scanner} (hahead : s.cursor.ahead = k.text) :
    ∃ s', Scanner.Scans s k.tokens s' ∧ s'.nextToken.answer = .ok none := by
  obtain ⟨gap, pieces⟩ := k
  induction pieces generalizing gap s with
  | nil =>
    have hspace : Text.IsSpace s.cursor.ahead := by
      rw [hahead]
      simpa [Cut.text] using h.gap
    exact ⟨s, .nil s, Scanner.answer_of_isSpace hspace⟩
  | cons p ps ih =>
    have hfinds := h.finds hahead
    obtain ⟨s', hscans, hend⟩ := ih _ h.behind hfinds.ahead_nextToken
    exact ⟨s', .cons hfinds.answer_eq hscans, hend⟩

/-- A text with tokens in it is not white space. -/
theorem not_isSpace {gap : List Char} {p : Piece} {ps : List Piece}
    (h : (Cut.mk gap (p :: ps)).Valid) : ¬Text.IsSpace (Cut.mk gap (p :: ps)).text := by
  intro hspace
  obtain ⟨first, run, htext, hfirst⟩ := (h.pieces p (by simp)).1.exists_cons
  have h := hspace first (by simp [Cut.text_cons, htext])
  rw [hfirst] at h
  cases h

/-- What is ahead of a scanner has at most one valid cut. -/
theorem unique {k k' : Cut} (h : k.Valid) (h' : k'.Valid) {s : Scanner}
    (hahead : s.cursor.ahead = k.text) (hahead' : s.cursor.ahead = k'.text) : k = k' := by
  obtain ⟨gap, pieces⟩ := k
  obtain ⟨gap', pieces'⟩ := k'
  have htext := hahead.symm.trans hahead'
  induction pieces generalizing gap gap' pieces' s with
  | nil =>
    cases pieces' with
    | nil => simpa [Cut.text] using htext
    | cons p' ps' =>
      have hspace : Text.IsSpace (Cut.mk gap []).text := by simpa [Cut.text] using h.gap
      exact absurd (htext ▸ hspace) h'.not_isSpace
  | cons p ps ih =>
    cases pieces' with
    | nil =>
      have hspace : Text.IsSpace (Cut.mk gap' []).text := by simpa [Cut.text] using h'.gap
      exact absurd (htext ▸ hspace) h.not_isSpace
    | cons p' ps' =>
      have hfinds := h.finds hahead
      obtain ⟨rfl, htext, hrest, hresult⟩ := hfinds.unique (h'.finds hahead')
      have hbehind : Cut.behind p ps = Cut.behind p' ps' :=
        ih _ h.behind (hfinds.ahead_landed []) _ _ h'.behind
          ((hfinds.ahead_landed []).trans hrest) hrest
      obtain ⟨hgap, rfl⟩ := Cut.mk.inj hbehind
      obtain ⟨text, token, pgap⟩ := p
      obtain ⟨text', token', pgap'⟩ := p'
      simp_all

end Cut.Valid

namespace Scanner

/-- The tokens of a scan to the end of the text are those of a valid cut. -/
theorem Scans.exists_cut {s s' : Scanner} {tokens : List Token} (h : Scans s tokens s')
    (hend : s'.nextToken.answer = .ok none) :
    ∃ k : Cut, k.Valid ∧ k.text = s.cursor.ahead ∧ k.tokens = tokens := by
  induction h with
  | nil s =>
    exact ⟨⟨s.cursor.ahead, []⟩, ⟨isSpace_of_answer hend, by simp, List.isChain_nil⟩,
      by simp [Cut.text], rfl⟩
  | @cons s s' token tokens hfirst hlater ih =>
    obtain ⟨k, hk, htext, htokens⟩ := ih hend
    obtain ⟨gap, text, rest, hfinds⟩ := exists_finds_of_token hfirst
    have hrest : k.text = rest := htext.trans hfinds.ahead_nextToken
    cases hfinds.reads with
    | token hspells hends =>
      refine ⟨⟨gap, ⟨text, token, k.gap⟩ :: k.pieces⟩,
        .cons hfinds.space hspells (hrest ▸ hends) hk, ?_, ?_⟩
      · rw [Cut.text_cons, hfinds.ahead, ← hrest]
        rfl
      · simpa [Cut.tokens] using htokens

end Scanner

/-- A source is accepted with given tokens exactly if it has a valid cut into them, and it has at
most one valid cut. -/
theorem tokenize_eq_ok_iff_cut (source : String) :
    (∀ tokens, tokenize source = .ok tokens ↔
      ∃ k : Cut, k.Valid ∧ k.text = source.toList ∧ k.tokens = tokens) ∧
    ∀ k k' : Cut, k.Valid → k.text = source.toList → k'.Valid → k'.text = source.toList →
      k = k' := by
  constructor
  · intro tokens
    rw [tokenize, Scanner.tryCollect_eq_ok_iff rfl]
    constructor
    · rintro ⟨s', hscans, hend⟩
      exact hscans.exists_cut hend
    · rintro ⟨k, hk, htext, rfl⟩
      exact hk.exists_scans htext.symm
  · intro k k' hk htext hk' htext'
    have hahead : (Scanner.ofSource source).cursor.ahead = source.toList := rfl
    exact hk.unique hk' (hahead.trans htext.symm) (hahead.trans htext'.symm)

end Lexis
