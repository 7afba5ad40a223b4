import Lexis.Proofs.Scanner.AcceptedLanguage
import Lexis.Proofs.Scanner.Spans
import Lexis.Scanner.Steps

/-!
# More text behind

What a scanner reads depends on what lies behind it only where it extends to the end of the text.
So a scanner of a longer text takes the same steps up to the end of the shorter one, and even
beyond if what is added cannot extend the last token. White space extends nothing but a string
that is never closed, and such a string is the same error.
-/

namespace Lexis

/-- A run that ends before some text ends there too if more is added behind that. -/
theorem Text.IsRun.append {p : Char → Bool} {run rest back : List Char} (h : IsRun p run rest)
    (hback : rest = [] → ∀ c ∈ back.head?, p c = false) : IsRun p run (rest ++ back) where
  inside := h.inside
  stops := by
    cases rest with
    | nil => exact hback rfl
    | cons c rest => exact h.stops

namespace Token

/-- A token that may end before some text may end there too if more is added behind that. -/
theorem EndsBefore.append {token : Token} {rest back : List Char} (h : token.EndsBefore rest)
    (hback : rest = [] → token.EndsBefore back) : token.EndsBefore (rest ++ back) := by
  cases rest with
  | nil => exact hback rfl
  | cons c rest => exact h

/-- Every token ends before a text that begins with white space. -/
theorem endsBefore_of_head? (token : Token) {back : List Char}
    (hback : ∀ c ∈ back.head?, Text.isWhiteSpace c = true) : token.EndsBefore back := by
  cases back with
  | nil => exact token.endsBefore_nil
  | cons c back => exact token.endsBefore_space (hback c rfl)

end Token

namespace Reads

variable {start : Location} {text rest : List Char} {result : Except LexError Token}

/-- What is read of a text and does not extend to its end is read of a longer text too. -/
theorem append_of_ne_nil (h : Reads start text rest result) (hrest : rest ≠ [])
    (back : List Char) : Reads start text (rest ++ back) result := by
  cases h with
  | token hspells hends => exact .token hspells (hends.append fun hnone => absurd hnone hrest)
  | unterminated hbody => exact absurd rfl hrest
  | misfit hfirst hrun => exact .misfit hfirst (hrun.append fun hnone => absurd hnone hrest)

/-- With white space behind a text the same is read of it, but that a string that is never closed
takes the white space too. -/
theorem append_of_isSpace (h : Reads start text rest result) {back : List Char}
    (hback : Text.IsSpace back) :
    Reads start text (rest ++ back) result ∨
      rest = [] ∧ Reads start (text ++ back) [] result ∧
        result = .error (.unterminatedString start) := by
  have hhead : ∀ c ∈ back.head?, Text.isWhiteSpace c = true :=
    fun c hc => hback c (List.mem_of_mem_head? hc)
  cases h with
  | token hspells hends =>
    exact Or.inl (.token hspells (hends.append fun _ => Token.endsBefore_of_head? _ hhead))
  | @unterminated body hbody =>
    have hquote : Text.quoteMark ∉ back := fun hmem => by simpa using hback _ hmem
    have hlonger : Text.quoteMark ∉ body ++ back := by simp [hbody, hquote]
    exact Or.inr ⟨rfl, .unterminated hlonger, rfl⟩
  | misfit hfirst hrun =>
    have hstops : ∀ c ∈ back.head?, Text.isBare c = false := by
      intro c hc
      simp [Text.isBare, hhead c hc]
    exact Or.inl (.misfit hfirst (hrun.append fun _ => hstops))

end Reads

namespace Scanner

/-- The scanner `s` of the source and the scanner `s'` of the source with more behind it have come
equally far. -/
def Abreast (source more : String) (s s' : Scanner) : Prop :=
  ∃ front, s.HasRead source front ∧ s'.HasRead (source ++ more) front

/-- A scan from the end of the text is over. -/
theorem Scans.of_ahead_nil {s s' : Scanner} {tokens : List Token} (h : Scans s tokens s')
    (hahead : s.cursor.ahead = []) : tokens = [] ∧ s' = s := by
  cases h with
  | nil => exact ⟨rfl, rfl⟩
  | cons hfirst hlater =>
    rw [answer_of_isSpace (by simp [hahead, Text.IsSpace])] at hfirst
    cases hfirst

/-- Something is ahead of a scanner that does not stand at the end of its source. -/
theorem HasRead.ahead_ne_nil_iff {source : String} {front : List Char} {s : Scanner}
    (h : s.HasRead source front) :
    s.cursor.ahead ≠ [] ↔ s.location.offset < source.utf8ByteSize := by
  have hsize := h.utf8ByteSize_eq
  rw [Ne, ← Text.byteSize_eq_zero, location]
  omega

/-- Where only white space is ahead, the only step leads to the end of the source. -/
theorem HasRead.stop_of_isSpace {source : String} {front : List Char} {s : Scanner}
    (h : s.HasRead source front) (hspace : Text.IsSpace s.cursor.ahead) {i : ℕ} {step : Step}
    (hstep : s.steps[i]? = some step) : step.stop.offset = source.utf8ByteSize := by
  have hend := h.endsAt hspace
  rw [steps_of_end (answer_of_isSpace hspace)] at hstep
  obtain rfl : step = s.nextToken.step := by simpa using List.mem_of_getElem? hstep
  exact hend.stop

namespace Abreast

variable {source more : String} {s s' : Scanner}

/-- New scanners of the source and of the longer text have come equally far: both have read
nothing. -/
theorem ofSource (source more : String) :
    Abreast source more (.ofSource source) (.ofSource (source ++ more)) :=
  ⟨[], Cursor.hasRead_ofSource _, Cursor.hasRead_ofSource _⟩

/-- What is added to the source lies behind what is ahead of its scanner. -/
theorem ahead_eq (h : Abreast source more s s') :
    s'.cursor.ahead = s.cursor.ahead ++ more.toList := by
  obtain ⟨front, hs, hs'⟩ := h
  have hboth : front ++ s'.cursor.ahead = front ++ (s.cursor.ahead ++ more.toList) := by
    rw [← hs'.text, String.toList_append, hs.text, List.append_assoc]
  exact List.append_cancel_left hboth

/-- Scanners of both texts that have come equally far stand at the same place. -/
theorem location_eq (h : Abreast source more s s') : s'.location = s.location := by
  obtain ⟨front, hs, hs'⟩ := h
  exact hs'.location_eq.trans hs.location_eq.symm

/-- A request leads the scanner of the source to some place in it. -/
theorem exists_hasRead (h : Abreast source more s s') :
    ∃ front, s.nextToken.scanner.HasRead source front := by
  obtain ⟨front, hs, _⟩ := h
  obtain ⟨later, hlater⟩ := hs.nextToken
  exact ⟨_, hlater⟩

/-- What can be read of the longer text as well is found in it. -/
theorem finds (h : Abreast source more s s') {gap text text' rest rest' : List Char}
    {result : Except LexError Token} (hfinds : s.Finds gap text rest result)
    (htext : text' ++ rest' = text ++ rest ++ more.toList)
    (hreads : Reads (s.location.after gap) text' rest' result) :
    s'.Finds gap text' rest' result where
  ahead := by simp [h.ahead_eq, hfinds.ahead, htext]
  space := hfinds.space
  reads := by rwa [h.location_eq]

/-- If the same is read of both texts, both scanners take the same step. -/
theorem nextToken (h : Abreast source more s s') {gap text rest : List Char}
    {result : Except LexError Token} (hfinds : s.Finds gap text rest result)
    (hreads : Reads (s.location.after gap) text (rest ++ more.toList) result) :
    Abreast source more s.nextToken.scanner s'.nextToken.scanner ∧
      s'.nextToken.step = s.nextToken.step := by
  have hfinds' := h.finds hfinds (List.append_assoc ..).symm hreads
  have hlocation := h.location_eq
  obtain ⟨front, hs, hs'⟩ := h
  have habreast : Abreast source more s.nextToken.scanner s'.nextToken.scanner :=
    ⟨_, hs.nextToken_of_finds hfinds, hs'.nextToken_of_finds hfinds'⟩
  refine ⟨habreast, ?_⟩
  simp only [Reply.step, hfinds.tokenStart_eq, hfinds'.tokenStart_eq, hfinds.answer_eq,
    hfinds'.answer_eq, habreast.location_eq, hlocation]

/-- A request that leaves something ahead makes the same step in the longer text. -/
theorem nextToken_of_ahead_ne_nil (h : Abreast source more s s')
    (hahead : s.nextToken.scanner.cursor.ahead ≠ []) :
    Abreast source more s.nextToken.scanner s'.nextToken.scanner ∧
      s'.nextToken.step = s.nextToken.step := by
  rcases s.isSpace_or_finds with hspace | ⟨gap, text, rest, result, hfinds⟩
  · simp [nextToken_of_isSpace hspace] at hahead
  · rw [hfinds.ahead_nextToken] at hahead
    exact h.nextToken hfinds (hfinds.reads.append_of_ne_nil hahead _)

/-- Steps that end before the end of the source are steps of the longer text. -/
theorem steps_getElem? (h : Abreast source more s s') {i : ℕ} {step : Step}
    (hstep : s.steps[i]? = some step) (hstop : step.stop.offset < source.utf8ByteSize) :
    s'.steps[i]? = some step := by
  induction i generalizing s s' with
  | zero =>
    obtain ⟨front, hread⟩ := h.exists_hasRead
    obtain rfl : s.nextToken.step = step := by simpa [steps_zero] using hstep
    obtain ⟨_, hsame⟩ := h.nextToken_of_ahead_ne_nil (hread.ahead_ne_nil_iff.mpr hstop)
    rw [steps_zero, hsame]
  | succ i ih =>
    by_cases hend : s.nextToken.answer = .ok none
    · simp [steps_of_end hend] at hstep
    · rw [steps_of_result hend, List.getElem?_cons_succ] at hstep
      obtain ⟨front, hread⟩ := h.exists_hasRead
      -- With nothing ahead the later step would end at the end of the source.
      have hahead : s.nextToken.scanner.cursor.ahead ≠ [] := by
        intro hnone
        have hspace : Text.IsSpace s.nextToken.scanner.cursor.ahead := by simp [hnone, Text.IsSpace]
        exact absurd (hread.stop_of_isSpace hspace hstep) (Nat.ne_of_lt hstop)
      obtain ⟨habreast, hsame⟩ := h.nextToken_of_ahead_ne_nil hahead
      have hanswer : s'.nextToken.answer = s.nextToken.answer := congrArg Step.outcome hsame
      rw [steps_of_result (hanswer ▸ hend), List.getElem?_cons_succ]
      exact ih habreast hstep

/-- White space behind the source changes nothing about what is collected. -/
theorem tryCollect_eq (h : Abreast source more s s') (hmore : Text.IsSpace more.toList)
    (hfailed : s.failed = false) (hfailed' : s'.failed = false) :
    s'.tryCollect.answer = s.tryCollect.answer := by
  induction s using request_induction generalizing s' with
  | ended s hend =>
    have hspace : Text.IsSpace s'.cursor.ahead := by
      rw [h.ahead_eq]
      exact List.forall_mem_append.mpr ⟨isSpace_of_answer hend, hmore⟩
    rw [tryCollect_of_none hfailed hend, tryCollect_of_none hfailed' (answer_of_isSpace hspace)]
  | found s hfound ih =>
    obtain ⟨gap, text, rest, result, hfinds⟩ := exists_finds hfound
    have hanswer := hfinds.answer_eq
    -- Only a string that is never closed takes the white space behind the source.
    rcases hfinds.reads.append_of_isSpace hmore with hreads | ⟨hnone, hreads, hresult⟩
    · obtain ⟨habreast, hsame⟩ := h.nextToken hfinds hreads
      have hanswer' := (congrArg Step.outcome hsame).trans hanswer
      cases result with
      | error error =>
        rw [tryCollect_of_error hfailed hanswer, tryCollect_of_error hfailed' hanswer']
      | ok token =>
        rw [tryCollect_of_token hfailed hanswer, tryCollect_of_token hfailed' hanswer',
          ih habreast (s.failed_nextToken.trans hfailed) (s'.failed_nextToken.trans hfailed')]
    · have hfinds' := h.finds hfinds (by simp [hnone]) hreads
      subst hresult
      rw [tryCollect_of_error hfailed hanswer, tryCollect_of_error hfailed' hfinds'.answer_eq]

/-- A scan goes through the same tokens of both texts, if the last one cannot be extended. -/
theorem scans {t : Scanner} {tokens : List Token} (h : Abreast source more s s')
    (hscans : Scans s tokens t)
    (hlast : t.cursor.ahead = [] → ∀ token ∈ tokens.getLast?, token.EndsBefore more.toList) :
    ∃ t', Scans s' tokens t' ∧ Abreast source more t t' := by
  induction hscans generalizing s' with
  | nil s => exact ⟨s', .nil s', h⟩
  | @cons s t token tokens hfirst hlater ih =>
    obtain ⟨gap, text, rest, hfinds⟩ := exists_finds_of_token hfirst
    have hrest := hfinds.ahead_nextToken
    -- Where the token extends to the end of the text, it is the last one.
    have hback : rest = [] → token.EndsBefore more.toList := by
      intro hnone
      obtain ⟨rfl, rfl⟩ := hlater.of_ahead_nil (hrest.trans hnone)
      exact hlast (hrest.trans hnone) token rfl
    have hreads : Reads (s.location.after gap) text (rest ++ more.toList) (.ok token) := by
      cases hfinds.reads with
      | token hspells hends => exact .token hspells (hends.append hback)
    obtain ⟨habreast, hstep⟩ := h.nextToken hfinds hreads
    have hfirst' : s'.nextToken.answer = .ok (some token) :=
      (congrArg Step.outcome hstep).trans hfirst
    obtain ⟨t', hscans', ht'⟩ := ih habreast fun hnone last hmem =>
      hlast hnone last (by simp_all [List.getLast?_cons])
    exact ⟨t', .cons hfirst' hscans', ht'⟩

end Abreast

end Scanner

end Lexis
