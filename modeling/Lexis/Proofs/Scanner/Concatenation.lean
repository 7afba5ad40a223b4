import Lexis.Proofs.Scanner.Extension
import Lexis.Proofs.Scanner.Parallel

/-!
# Texts in succession

Where the last token of a text cannot run on into another text, the tokens of both texts together
are those of the one and then those of the other, and an error of the second text is the same error
at its place behind the first one.
-/

namespace Lexis

/-- The text of a token does not end in white space. -/
theorem Spells.exists_getLast? {text : List Char} {token : Token} (h : Spells text token) :
    ∃ c ∈ text.getLast?, Text.isWhiteSpace c = false := by
  have hall : ∀ c ∈ text.getLast?, Text.isWhiteSpace c = false := by
    intro c hc
    have hmem := List.mem_of_mem_getLast? hc
    cases h with
    | string hbody =>
      obtain rfl : Text.quoteMark = c := by simpa [List.getLast?_cons] using hc
      exact Text.isWhiteSpace_quoteMark
    | number hne hdigits hvalue => exact Text.isWhiteSpace_of_isDigit (hdigits c hmem)
    | name hfirst hrun => simpa [Text.isBare] using hrun c hmem
    | symbol hfirst hquote hrun => simpa [Text.isBare] using hrun c hmem
  obtain ⟨first, run, rfl, _⟩ := h.exists_cons
  have hlast := List.getLast?_eq_some_getLast (List.cons_ne_nil first run)
  exact ⟨_, hlast, hall _ hlast⟩

/-- The last token of the source cannot run on into the text behind it. -/
inductive Detached (source : String) (tokens : List Token) (more : String) : Prop
  /-- The source is empty or ends in white space. -/
  | spaceBefore (hspace : ∀ c ∈ source.toList.getLast?, Text.isWhiteSpace c = true)
  /-- The text behind it is empty or begins with white space. -/
  | spaceBehind (hspace : ∀ c ∈ more.toList.head?, Text.isWhiteSpace c = true)
  /-- The last token is a string. -/
  | string {text : String} (hlast : tokens.getLast? = some (.string text))
  /-- The last token is a number, and the text behind the source does not begin with a digit. -/
  | number {value : Binary64} (hlast : tokens.getLast? = some (.number value))
      (hdigit : ∀ c ∈ more.toList.head?, Text.isDigit c = false)

namespace Scanner

/-- A scan goes no further than to the last character of its last token. -/
theorem Scans.exists_getLast? {source : String} {front front' : List Char} {s s' : Scanner}
    {tokens : List Token} (h : Scans s tokens s') (hne : tokens ≠ [])
    (hs : s.HasRead source front) (hs' : s'.HasRead source front') :
    ∃ c ∈ front'.getLast?, Text.isWhiteSpace c = false := by
  induction h generalizing front with
  | nil s => exact absurd rfl hne
  | @cons s s' token tokens hfirst hlater ih =>
    by_cases hlast : tokens = []
    · subst hlast
      cases hlater
      obtain ⟨gap, text, rest, hfinds⟩ := exists_finds_of_token hfirst
      obtain rfl : front' = front ++ gap ++ text :=
        List.append_cancel_right (hs'.text.symm.trans (hs.nextToken_of_finds hfinds).text)
      cases hfinds.reads with
      | token hspells hends =>
        obtain ⟨c, hc, hsolid⟩ := hspells.exists_getLast?
        exact ⟨c, List.mem_getLast?_append_of_mem_getLast? hc, hsolid⟩
    · obtain ⟨later, hlater⟩ := hs.nextToken
      exact ih hlast hlater hs'

/-- A request does the same if some of the white space ahead has been passed over already. -/
theorem nextToken_advance_space {s : Scanner} {gap behind : List Char}
    (hahead : s.cursor.ahead = gap ++ behind) (hgap : Text.IsSpace gap) :
    Scanner.nextToken { s with cursor := s.cursor.advance gap.length } = s.nextToken := by
  have htake : s.cursor.ahead.takeWhile Text.isWhiteSpace =
      gap ++ behind.takeWhile Text.isWhiteSpace := by
    rw [hahead, List.takeWhile_append_of_pos hgap]
  have hstart : Scanner.toTokenStart { s with cursor := s.cursor.advance gap.length } =
      s.toTokenStart := by
    rw [toTokenStart_eq, toTokenStart_eq, htake]
    simp [location, hahead, Cursor.advance_advance, Location.after_append]
  simp only [nextToken, hstart]

/-- What is collected depends only on what a request for a token does. -/
theorem tryCollect_congr {s s' : Scanner} (hnext : s.nextToken = s'.nextToken)
    (hfailed : s.failed = false) (hfailed' : s'.failed = false) :
    s.tryCollect.answer = s'.tryCollect.answer := by
  cases hanswer : s.nextToken.answer with
  | error error =>
    rw [tryCollect_of_error hfailed hanswer, tryCollect_of_error hfailed' (hnext ▸ hanswer)]
  | ok token? =>
    cases token? with
    | none => rw [tryCollect_of_none hfailed hanswer, tryCollect_of_none hfailed' (hnext ▸ hanswer)]
    | some token =>
      rw [tryCollect_of_token hfailed hanswer, tryCollect_of_token hfailed' (hnext ▸ hanswer),
        hnext]

/-- Scanners in parallel collect the same tokens, or the same error at corresponding places. -/
theorem Parallel.tryCollect {source : String} {front : List Char} {text : String} {t s : Scanner}
    (h : Parallel source front text t s) (ht : t.failed = false) (hs : s.failed = false) :
    Relocated front text.toList t.tryCollect.answer s.tryCollect.answer := by
  induction t using request_induction generalizing s with
  | ended t hend =>
    have hanswers := h.nextToken.2.2
    rw [hend] at hanswers
    rw [tryCollect_of_none ht hend, tryCollect_of_none hs hanswers.eq_ok]
    exact .ok []
  | found t hfound ih =>
    obtain ⟨hparallel, _, hanswers⟩ := h.nextToken
    generalize hanswer : t.nextToken.answer = answer at hanswers
    generalize hanswer' : s.nextToken.answer = answer' at hanswers
    cases hanswers with
    | error hplace =>
      rw [tryCollect_of_error ht hanswer, tryCollect_of_error hs hanswer']
      exact .error hplace
    | ok token? =>
      cases token? with
      | none => exact absurd hanswer hfound
      | some token =>
        have hlater := ih hparallel (t.failed_nextToken.trans ht) (s.failed_nextToken.trans hs)
        rw [tryCollect_of_token ht hanswer, tryCollect_of_token hs hanswer']
        exact hlater.map (token :: ·)

/-- Where only white space is left of the source, what is collected behind it is what the other
text holds. -/
theorem Abreast.tryCollect_behind {source more : String} {s s' : Scanner}
    (h : Abreast source more s s') (hspace : Text.IsSpace s.cursor.ahead)
    (hfailed : s'.failed = false) :
    Relocated source.toList more.toList (tokenize more) s'.tryCollect.answer := by
  have hahead := h.ahead_eq
  obtain ⟨front, hs, hs'⟩ := h
  have hread := hs'.advance s.cursor.ahead.length
  rw [hahead, List.take_left, ← hs.text] at hread
  have hparallel : Parallel (source ++ more) source.toList more (.ofSource more)
      { s' with cursor := s'.cursor.advance s.cursor.ahead.length } :=
    .of_hasRead hread (by simp [hahead])
  rw [← tryCollect_congr (nextToken_advance_space hahead hspace) hfailed hfailed]
  exact hparallel.tryCollect rfl hfailed

/-- Where the source ends with its last token, this cannot be extended by a text from which it is
detached. -/
theorem Scans.endsBefore_of_detached {source more : String} {s : Scanner} {tokens : List Token}
    (hscans : Scans (.ofSource source) tokens s) (hs : s.HasRead source source.toList)
    (h : Detached source tokens more) :
    ∀ token ∈ tokens.getLast?, token.EndsBefore more.toList := by
  intro token htoken
  cases h with
  | spaceBefore hspace =>
    have hne : tokens ≠ [] := by
      rintro rfl
      simp at htoken
    obtain ⟨c, hc, hsolid⟩ := hscans.exists_getLast? hne (Cursor.hasRead_ofSource source) hs
    simp [hspace c hc] at hsolid
  | spaceBehind hspace => exact token.endsBefore_of_head? hspace
  | string hlast =>
    obtain rfl := Option.some.inj (hlast.symm.trans htoken)
    exact trivial
  | number hlast hdigit =>
    obtain rfl := Option.some.inj (hlast.symm.trans htoken)
    exact hdigit

end Scanner

/-- Behind a source from whose last token it is detached, a text is read as it is read alone. -/
theorem Detached.tokenize_append {source more : String} {tokens : List Token}
    (h : Detached source tokens more) (htokens : tokenize source = .ok tokens) :
    Relocated source.toList more.toList ((tokenize more).map (tokens ++ ·))
      (tokenize (source ++ more)) := by
  have hnew : (Scanner.ofSource source).HasRead source [] := Cursor.hasRead_ofSource source
  rw [tokenize, Scanner.tryCollect_eq_ok_iff rfl] at htokens
  obtain ⟨s, hscans, hend⟩ := htokens
  obtain ⟨front, hs⟩ := hnew.scans hscans
  have hlast : s.cursor.ahead = [] → ∀ token ∈ tokens.getLast?, token.EndsBefore more.toList := by
    intro hnone
    rw [hs.ahead_eq_nil_iff.mp hnone] at hs
    exact hscans.endsBefore_of_detached hs h
  obtain ⟨s', hscans', habreast⟩ := (Scanner.Abreast.ofSource source more).scans hscans hlast
  have hbehind := habreast.tryCollect_behind (Scanner.isSpace_of_answer hend)
    (hscans'.failed_eq.trans rfl)
  have hboth : tokenize (source ++ more) = s'.tryCollect.answer.map (tokens ++ ·) :=
    hscans'.tryCollect_eq rfl
  rw [hboth]
  exact hbehind.map (tokens ++ ·)

/-- Two texts in succession. If the last token of an accepted source is detached from the text
behind it, both are read as each is read alone. In any case the steps of the source that end
before its end are steps of both together, and white space behind the source changes nothing about
its tokens or its first error. -/
theorem tokenize_concatenation (source more : String) :
    (∀ tokens, tokenize source = .ok tokens → Detached source tokens more →
      Relocated source.toList more.toList ((tokenize more).map (tokens ++ ·))
        (tokenize (source ++ more))) ∧
    (∀ (i : ℕ) (step : Step), (Scanner.ofSource source).steps[i]? = some step →
      step.stop.offset < source.utf8ByteSize →
      (Scanner.ofSource (source ++ more)).steps[i]? = some step) ∧
    (Text.IsSpace more.toList → tokenize (source ++ more) = tokenize source) := by
  have habreast := Scanner.Abreast.ofSource source more
  refine ⟨fun tokens htokens h => h.tokenize_append htokens, ?_, ?_⟩
  · exact fun i step hstep hstop => habreast.steps_getElem? hstep hstop
  · exact fun hspace => habreast.tryCollect_eq hspace rfl rfl

/-- A number may touch a symbol behind it, and an error there is told at its place in both texts.
The name in front of the number is not touched. White space changes nothing about an error. -/
theorem tokenize_concatenation_touching :
    Relocated "x 12".toList "+ .5".toList (.error (.invalidToken ".5" ⟨2, 1, 3⟩))
        (tokenize ("x 12" ++ "+ .5")) ∧
      (Scanner.ofSource ("x 12" ++ "+ .5")).steps[0]? =
        some ⟨.start, ⟨1, 1, 2⟩, .ok (some (.name "x"))⟩ ∧
      tokenize (".5" ++ " \n") = .error (.invalidToken ".5" .start) := by
  have htokens : tokenize "x 12" = .ok [.name "x", .number (.ofNat 12)] := by decide +kernel
  have herror : tokenize "+ .5" = .error (.invalidToken ".5" ⟨2, 1, 3⟩) := by decide +kernel
  have hrejected : tokenize ".5" = .error (.invalidToken ".5" .start) := by decide +kernel
  have hdetached : Detached "x 12" [.name "x", .number (.ofNat 12)] "+ .5" :=
    .number rfl (by simp [Text.isDigit])
  have hboth := (tokenize_concatenation "x 12" "+ .5").1 _ htokens hdetached
  rw [herror] at hboth
  have hname : (Scanner.ofSource "x 12").steps[0]? =
      some ⟨.start, ⟨1, 1, 2⟩, .ok (some (.name "x"))⟩ := by
    simp only [Scanner.steps_zero, Reply.step, Option.some.injEq, Step.mk.injEq]
    decide +kernel
  have hstep := (tokenize_concatenation "x 12" "+ .5").2.1 0 _ hname (by decide)
  have hspace := (tokenize_concatenation ".5" " \n").2.2 (by decide +kernel)
  exact ⟨hboth, hstep, hspace.trans hrejected⟩

end Lexis
