import Lexis.Proofs.Number.Integers
import Lexis.Proofs.Scanner.AcceptedLanguage

/-!
# Tokens read back from their text forms

The text form of a token escapes nothing, and yet it reads back as the token, provided that the
payload is one that the readers can produce. Between two text forms there must be white space
wherever they would run together. The scanner produces no other payloads than these, but for the
infinite number, whose text form is a word.
-/

namespace Lexis

namespace Token

/-- A token with a payload that its text form can carry. -/
def WellFormed : Token → Prop
  | string text => Text.quoteMark ∉ text.toList
  | name text =>
    (∃ first ∈ text.toList.head?, Text.isNameStart first = true) ∧
      ∀ c ∈ text.toList, Text.isWhiteSpace c = false
  | symbol char =>
    Text.isSymbolStart char = true ∧ Text.isWhiteSpace char = false ∧ char ≠ Text.quoteMark
  | number value => value.IsInteger

/-- Between the text forms of two tokens stands `gap`: it may be empty only behind a string, and
between a number and a token that is none. -/
def ApartBy (gap : String) (token next : Token) : Prop :=
  gap ≠ "" ∨ token.kind = .string ∨ token.kind = .number ∧ next.kind ≠ .number

/-- The text form of a well-formed token spells it. -/
theorem WellFormed.spells {token : Token} (h : token.WellFormed) :
    Spells token.display.toList token := by
  cases token with
  | string text =>
    have hspells := Spells.string h
    rw [String.ofList_toList] at hspells
    simpa [display, Text.quoteMark] using hspells
  | name text =>
    obtain ⟨⟨first, hmem, hfirst⟩, hrun⟩ := h
    obtain ⟨run, htext⟩ := List.head?_eq_some_iff.mp hmem
    have hbare : ∀ c ∈ first :: run, Text.isBare c = true := by
      intro c hc
      simp [Text.isBare, hrun c (htext ▸ hc)]
    have hspells := Spells.name hfirst hbare
    rw [← htext, String.ofList_toList] at hspells
    exact hspells
  | symbol char =>
    obtain ⟨hfirst, hspace, hquote⟩ := h
    have hspells : Spells [char] (.symbol char) :=
      .symbol hfirst hquote (by simp [Text.isBare, hspace])
    simpa [display] using hspells
  | number value =>
    obtain ⟨digits, hdisplay, hne, hdigits, hvalue⟩ := Binary64.IsInteger.exists_digits h
    have hrounded := Binary64.roundedFrom_ofNat (Nat.ofDigitChars 10 digits 0)
    rw [hvalue] at hrounded
    have hspells := Spells.number hne hdigits hrounded
    rwa [← String.toList_ofList (l := digits), ← hdisplay] at hspells

/-- What a text spells is well-formed, unless it is the infinite number. -/
theorem wellFormed_or_infinity {text : List Char} {token : Token} (h : Spells text token) :
    token.WellFormed ∨ token = .number .infinity := by
  cases h with
  | string hbody => exact Or.inl (by simpa [WellFormed] using hbody)
  | number hne hdigits hvalue =>
    obtain rfl := hvalue.eq_ofNat
    rcases Binary64.isInteger_or_infinity (Nat.ofDigitChars 10 text 0) with hinteger | hinfinite
    · exact Or.inl hinteger
    · exact Or.inr (by rw [hinfinite])
  | name hfirst hrun =>
    refine Or.inl ⟨⟨_, by simp, hfirst⟩, fun c hc => ?_⟩
    simpa [Text.isBare] using hrun c (by simpa using hc)
  | symbol hfirst hquote hrun =>
    exact Or.inl ⟨hfirst, by simpa [Text.isBare] using hrun _ (by simp), hquote⟩

/-- A token that a scanner can produce. -/
def Produced (token : Token) : Prop :=
  token.WellFormed ∨ token = .number .infinity

/-- What the text form of a token reads back as: that of the infinite number is a word. -/
def reread : Token → Token
  | number value => if value = .infinity then .name "inf" else .number value
  | token => token

/-- A token has the text form of what it reads back as. -/
theorem display_reread (token : Token) : token.reread.display = token.display := by
  cases token with
  | number value =>
    by_cases hvalue : value = .infinity
    · subst hvalue
      decide
    · simp [reread, hvalue]
  | _ => rfl

/-- What the text form of a token that a scanner can produce reads back as is well-formed. -/
theorem wellFormed_reread {token : Token} (h : token.WellFormed ∨ token = .number .infinity) :
    token.reread.WellFormed := by
  have hletters : Text.isWhiteSpace 'i' = false ∧ Text.isWhiteSpace 'n' = false ∧
      Text.isWhiteSpace 'f' = false := by decide +kernel
  have hword : (Token.name "inf").WellFormed :=
    ⟨⟨'i', rfl, by decide +kernel⟩, by simpa using hletters⟩
  rcases h with h | rfl
  · cases token with
    | number value =>
      by_cases hvalue : value = .infinity
      · simpa [reread, hvalue] using hword
      · simpa [reread, hvalue] using h
    | _ => exact h
  · exact hword

end Token

/-- The text forms of tokens, each with the text behind it. -/
def spaced (items : List (Token × String)) : String :=
  String.join (items.map fun (token, gap) => token.display ++ gap)

/-- The cut of text forms with white space between them. -/
def Cut.ofSpaced (gap : String) (items : List (Token × String)) : Cut where
  gap := gap.toList
  pieces := items.map fun (token, gap) => ⟨token.display.toList, token, gap.toList⟩

/-- Well-formed tokens that are kept apart read back from their text forms. -/
theorem tokenize_spaced (gap : String) (items : List (Token × String))
    (hgap : Text.IsSpace gap.toList)
    (hitems : ∀ item ∈ items, item.1.WellFormed ∧ Text.IsSpace item.2.toList)
    (hapart : items.IsChain fun item next => Token.ApartBy item.2 item.1 next.1) :
    tokenize (gap ++ spaced items) = .ok (items.map Prod.fst) := by
  have hvalid : (Cut.ofSpaced gap items).Valid := by
    refine ⟨hgap, ?_, ?_⟩
    · intro piece hpiece
      obtain ⟨item, hitem, rfl⟩ := List.mem_map.mp hpiece
      exact ⟨(hitems item hitem).1.spells, (hitems item hitem).2⟩
    · refine (List.isChain_map _).mpr (hapart.imp ?_)
      intro item next h
      have hopen : item.2.toList = [] → item.1.kind = .string ∨
          item.1.kind = .number ∧ next.1.kind ≠ .number :=
        fun hnone => h.resolve_left (fun hgap => hgap (String.toList_eq_nil_iff.mp hnone))
      constructor
      · intro hkind hnone
        rcases hopen hnone with hstring | ⟨hnumber, _⟩ <;> simp_all
      · intro hkind hkind' hnone
        rcases hopen hnone with hstring | ⟨_, hother⟩ <;> simp_all
  have htext : (Cut.ofSpaced gap items).text = (gap ++ spaced items).toList := by
    simp [Cut.text, Cut.ofSpaced, spaced, String.toList_join, List.flatMap_map]
  have htokens : (Cut.ofSpaced gap items).tokens = items.map Prod.fst := by
    simp [Cut.tokens, Cut.ofSpaced]
  rw [tokenize, Scanner.tryCollect_eq_ok_iff rfl, ← htokens]
  exact hvalid.exists_scans htext.symm

/-- Tokens with a blank between any two of them. -/
def withBlanks : List Token → List (Token × String)
  | [] => []
  | [token] => [(token, "")]
  | token :: next :: tokens => (token, " ") :: withBlanks (next :: tokens)

/-- Joining text forms by blanks puts a blank between any two of them. -/
theorem spaced_withBlanks (tokens : List Token) :
    spaced (withBlanks tokens) = " ".intercalate (tokens.map Token.display) := by
  induction tokens using withBlanks.induct with
  | case1 => rfl
  | case2 token => simp [withBlanks, spaced]
  | case3 token next tokens ih =>
    simp only [withBlanks, spaced, List.map_cons, String.join_cons] at ih ⊢
    rw [ih, String.intercalate_cons_cons]

/-- Putting blanks between tokens does not change the tokens. -/
theorem fst_withBlanks (tokens : List Token) : (withBlanks tokens).map Prod.fst = tokens := by
  induction tokens using withBlanks.induct with
  | case1 => rfl
  | case2 token => rfl
  | case3 token next tokens ih => rw [withBlanks, List.map_cons, ih]

/-- Blanks keep all tokens apart. -/
theorem isChain_withBlanks (tokens : List Token) :
    (withBlanks tokens).IsChain fun item next => Token.ApartBy item.2 item.1 next.1 := by
  induction tokens using withBlanks.induct with
  | case1 => exact List.isChain_nil
  | case2 token => exact List.isChain_singleton _
  | case3 token next tokens ih =>
    rw [withBlanks]
    refine List.IsChain.cons ih ?_
    exact fun _ _ => Or.inl (show " " ≠ "" by decide)

/-- What stands behind a token with a blank, or with nothing behind the last one, is white space. -/
theorem isSpace_withBlanks {tokens : List Token} {item : Token × String}
    (h : item ∈ withBlanks tokens) : Text.IsSpace item.2.toList := by
  induction tokens using withBlanks.induct with
  | case1 => simp [withBlanks] at h
  | case2 token =>
    obtain rfl : item = (token, "") := by simpa [withBlanks] using h
    simp [Text.IsSpace]
  | case3 token next tokens ih =>
    rcases List.mem_cons.mp h with rfl | hlater
    · intro c hc
      obtain rfl : c = ' ' := by simpa using hc
      decide +kernel
    · exact ih hlater

/-- The tokens of an accepted source are such as a scanner can produce. -/
theorem produced_of_tokenize {source : String} {tokens : List Token}
    (h : tokenize source = .ok tokens) : ∀ token ∈ tokens, token.Produced := by
  rw [tokenize, Scanner.tryCollect_eq_ok_iff rfl] at h
  obtain ⟨s, hscans, hend⟩ := h
  obtain ⟨k, hk, -, rfl⟩ := hscans.exists_cut hend
  intro token htoken
  obtain ⟨piece, hpiece, rfl⟩ := List.mem_map.mp htoken
  exact Token.wellFormed_or_infinity (hk.pieces piece hpiece).1

/-- Well-formed tokens read back from their text forms, whatever white space stands between them,
if only it keeps them apart. What the scanner produces is well-formed, but for the infinite number,
and reads back from its text forms joined by blanks with a word for each infinite number. -/
theorem tokens_read_back :
    (∀ (gap : String) (items : List (Token × String)), Text.IsSpace gap.toList →
      (∀ item ∈ items, item.1.WellFormed ∧ Text.IsSpace item.2.toList) →
      (items.IsChain fun item next => Token.ApartBy item.2 item.1 next.1) →
      tokenize (gap ++ spaced items) = .ok (items.map Prod.fst)) ∧
    ∀ (source : String) (tokens : List Token), tokenize source = .ok tokens →
      (∀ token ∈ tokens, token.WellFormed ∨ token = .number .infinity) ∧
      tokenize (" ".intercalate (tokens.map Token.display)) =
        .ok (tokens.map Token.reread) := by
  refine ⟨tokenize_spaced, ?_⟩
  intro source tokens htokens
  have hproduced := produced_of_tokenize htokens
  refine ⟨hproduced, ?_⟩
  have hdisplay : tokens.map Token.display = (tokens.map Token.reread).map Token.display := by
    simp [Token.display_reread]
  have hspaced := tokenize_spaced "" (withBlanks (tokens.map Token.reread))
    (by simp [Text.IsSpace]) ?_ (isChain_withBlanks _)
  · rwa [String.empty_append, spaced_withBlanks, fst_withBlanks, ← hdisplay] at hspaced
  · intro item hitem
    refine ⟨?_, isSpace_withBlanks hitem⟩
    have hmem : item.1 ∈ tokens.map Token.reread := by
      rw [← fst_withBlanks (tokens.map Token.reread)]
      exact List.mem_map_of_mem hitem
    obtain ⟨token, htoken, hreread⟩ := List.mem_map.mp hmem
    exact hreread ▸ Token.wellFormed_reread (hproduced token htoken)

/-- A string may touch a name and a number a symbol, and an integer of sixteen digits is written in
full. -/
theorem tokens_read_back_touching :
    Text.IsSpace "\t".toList ∧ (Token.number (.ofNat 9007199254740992)).WellFormed ∧
      tokenize "\t\"a b\"x\n9007199254740992+" =
        .ok [.string "a b", .name "x", .number (.ofNat 9007199254740992), .symbol '+'] ∧
      tokenize "\"a b\" x 9007199254740992 +" =
        .ok [.string "a b", .name "x", .number (.ofNat 9007199254740992), .symbol '+'] := by
  have hspace : Text.IsSpace "\t".toList := by decide +kernel
  have hnumber : (Token.number (.ofNat 9007199254740992)).WellFormed :=
    ⟨by decide +kernel, by decide +kernel, 9007199254740992, by decide +kernel⟩
  have hstring : (Token.string "a b").WellFormed := by simp [Token.WellFormed, Text.quoteMark]
  have hletter : Text.isWhiteSpace 'x' = false := by decide +kernel
  have hname : (Token.name "x").WellFormed :=
    ⟨⟨'x', rfl, by decide +kernel⟩, by simpa using hletter⟩
  have hsymbol : (Token.symbol '+').WellFormed :=
    ⟨by decide +kernel, by decide +kernel, by decide⟩
  have hfirst : tokenize "\t\"a b\"x\n9007199254740992+" =
      .ok [.string "a b", .name "x", .number (.ofNat 9007199254740992), .symbol '+'] := by
    have h := tokens_read_back.1 "\t" [(.string "a b", ""), (.name "x", "\n"),
      (.number (.ofNat 9007199254740992), ""), (.symbol '+', "")] hspace ?_ ?_
    · exact h
    · simp only [List.forall_mem_cons]
      refine ⟨⟨hstring, ?_⟩, ⟨hname, ?_⟩, ⟨hnumber, ?_⟩, ⟨hsymbol, ?_⟩, by simp⟩ <;> decide +kernel
    · simp [Token.ApartBy, Token.kind]
  exact ⟨hspace, hnumber, hfirst, (tokens_read_back.2 _ _ hfirst).2⟩

end Lexis
