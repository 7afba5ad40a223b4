import Lexis.Command.Check
import Lexis.Command.Tokens
import Lexis.Proofs.Scanner.Requests

/-!
# All ways to consume a scanner agree

Asking for one token after the other, for items, for the item behind some others, for all tokens at
once, for tokens with their places, or only for their number: each of these runs the scanner by a
loop of its own. All of them give the same tokens and end at the same error.
-/

namespace Lexis

/-- What a step found, unless it found the end of the text. -/
def Step.result? (step : Step) : Option (Except LexError Token) :=
  match step.outcome with
  | .ok none => none
  | .ok (some token) => some (.ok token)
  | .error error => some (.error error)

namespace Scanner

/-- The scanner after a number of requests for items. -/
def afterItems : ℕ → Scanner → Scanner
  | 0, s => s
  | n + 1, s => s.next.scanner.afterItems n

/-- Where there is no item, the next request for one finds none and changes nothing. -/
theorem next_again {s : Scanner} (h : s.next.answer = none) :
    s.next.scanner.next.answer = none ∧ s.next.scanner.next.scanner = s.next.scanner := by
  by_cases hfailed : s.failed = true
  · simp [next_of_failed hfailed]
  · have hunmarked : s.failed = false := by simpa using hfailed
    cases hanswer : s.nextToken.answer with
    | error error => simp [next_of_error hunmarked hanswer] at h
    | ok token? =>
      cases token? with
      | some token => simp [next_of_token hunmarked hanswer] at h
      | none =>
        have hagain := nextToken_again hanswer
        have hkept : s.nextToken.scanner.failed = false := by rw [failed_nextToken, hunmarked]
        rw [next_of_end hunmarked hanswer, next_of_end hkept (by rw [hagain]), hagain]
        simp

/-- Once there is no item, later requests for items leave the scanner as it is. -/
theorem afterItems_of_none {s : Scanner} (h : s.next.answer = none) (n : ℕ) :
    s.afterItems (n + 1) = s.next.scanner := by
  induction n generalizing s with
  | zero => rfl
  | succ n ih =>
    obtain ⟨hnone, hscanner⟩ := next_again h
    rw [afterItems, ih hnone, hscanner]

/-- Requests for items give the remaining items one after the other, and then none. -/
theorem next_afterItems (s : Scanner) (n : ℕ) :
    (s.afterItems n).next.answer = s.rest.answer[n]? := by
  induction n generalizing s with
  | zero =>
    cases hnext : s.next.answer with
    | none => simp [afterItems, hnext, rest_of_none hnext]
    | some item => simp [afterItems, hnext, rest_of_some hnext]
  | succ n ih =>
    cases hnext : s.next.answer with
    | none =>
      rw [rest_of_none hnext, afterItems_of_none hnext, (next_again hnext).1]
      rfl
    | some item =>
      rw [rest_of_some hnext, List.getElem?_cons_succ, ← ih]
      rfl

/-- Skipping items leads to where asking for them one by one leads. -/
theorem nth_eq (s : Scanner) (n : ℕ) :
    (s.nth n).answer = s.rest.answer[n]? ∧ (s.nth n).scanner = s.afterItems (n + 1) := by
  induction n generalizing s with
  | zero => exact ⟨next_afterItems s 0, rfl⟩
  | succ n ih =>
    rw [nth]
    cases hnext : s.next.answer with
    | none =>
      simp only [hnext, rest_of_none hnext, afterItems_of_none hnext]
      exact ⟨rfl, trivial⟩
    | some item =>
      obtain ⟨hanswer, hscanner⟩ := ih s.next.scanner
      simp only [rest_of_some hnext, List.getElem?_cons_succ]
      exact ⟨hanswer, hscanner⟩

/-- The items are what requests for tokens find, up to the first error. -/
theorem rest_eq_steps {s : Scanner} (hfailed : s.failed = false) :
    s.rest.answer = (Step.upToError s.steps).filterMap Step.result? := by
  induction s using request_induction with
  | ended s hend =>
    rw [rest_of_none (by rw [next_of_end hfailed hend]), steps_of_end hend]
    simp [Step.upToError, Reply.step, hend, Step.result?]
  | found s hfound ih =>
    rw [steps_of_result hfound]
    cases hanswer : s.nextToken.answer with
    | error error =>
      have hnext := next_of_error hfailed hanswer
      have hlast : s.next.scanner.next.answer = none := by
        rw [hnext, next_of_failed rfl]
      rw [rest_of_some (by rw [hnext]), rest_of_none hlast]
      simp [Step.upToError, Reply.step, hanswer, Step.result?]
    | ok token? =>
      cases token? with
      | none => exact absurd hanswer hfound
      | some token =>
        have hnext := next_of_token hfailed hanswer
        rw [rest_of_some (by rw [hnext]), hnext, ih (by rw [failed_nextToken, hfailed])]
        simp [Step.upToError, Reply.step, hanswer, Step.result?]

/-- Behind an error that is an item there is no other item. -/
theorem next_after_error {s : Scanner} {error : LexError}
    (h : s.next.answer = some (.error error)) : s.next.scanner.next.answer = none := by
  rw [next_of_failed (failed_of_next_error h)]

/-- A scanner that is asked for all items is left as one that is asked for them one by one, and then
for another. -/
theorem scanner_rest (s : Scanner) :
    s.rest.scanner = s.afterItems (s.rest.answer.length + 1) := by
  induction s using item_induction with
  | ended s hend =>
    rw [rest_eq_of_none hend]
    rfl
  | found s item hitem ih =>
    rw [rest_eq_of_some hitem, List.length_cons, afterItems]
    exact ih

/-- A scanner that is asked to collect the tokens is left as one that is asked for all items one by
one, and then for another: behind an error it does not move. -/
theorem scanner_tryCollect (s : Scanner) :
    s.tryCollect.scanner = s.afterItems (s.rest.answer.length + 1) := by
  induction s using item_induction with
  | ended s hend =>
    rw [tryCollect_eq_of_none hend, rest_of_none hend]
    rfl
  | found s item hitem ih =>
    rw [rest_of_some hitem, List.length_cons, afterItems]
    cases item with
    | ok token =>
      rw [tryCollect_eq_of_token hitem]
      exact ih
    | error error =>
      -- The next request for an item finds the mark and leaves the scanner alone.
      rw [tryCollect_eq_of_error hitem, afterItems_of_none (next_after_error hitem),
        next_of_failed (failed_of_next_error hitem)]

/-- What is counted is the next token and what is counted behind it. -/
theorem countFrom_eq (s : Scanner) (counted : ℕ) :
    s.countFrom counted =
      match s.next.answer with
      | none => { answer := .ok counted, events := s.next.events, scanner := s.next.scanner }
      | some (.error error) =>
        { answer := .error error, events := s.next.events, scanner := s.next.scanner }
      | some (.ok _) =>
        { answer := (s.next.scanner.countFrom (counted + 1)).answer
          events := s.next.events ++ (s.next.scanner.countFrom (counted + 1)).events
          scanner := (s.next.scanner.countFrom (counted + 1)).scanner } := by
  rw [countFrom]
  split <;> simp [*]

/-- What is located is the next token and what is located behind it. -/
theorem located_eq (s : Scanner) :
    s.located.answer =
      match s.nextLocated.answer with
      | .ok none => .ok []
      | .error error => .error error
      | .ok (some place) => s.nextLocated.scanner.located.answer.map (place :: ·) := by
  rw [located]
  split <;> simp [*]

/-- Collecting tokens gives all items if they are tokens, and otherwise the error among them, which
is the last item. -/
theorem tryCollect_cases (s : Scanner) :
    (∃ tokens : List Token, s.tryCollect.answer = .ok tokens ∧ s.rest.answer = tokens.map .ok) ∨
    ∃ (tokens : List Token) (error : LexError), s.tryCollect.answer = .error error ∧
      s.rest.answer = tokens.map .ok ++ [.error error] := by
  induction s using item_induction with
  | ended s hend =>
    rw [tryCollect_eq, hend, rest_of_none hend]
    exact Or.inl ⟨[], rfl, rfl⟩
  | found s item hnext ih =>
    rw [tryCollect_eq, hnext, rest_of_some hnext]
    cases item with
    | error error =>
      rw [rest_of_none (next_after_error hnext)]
      exact Or.inr ⟨[], error, rfl, rfl⟩
    | ok token =>
      rcases ih with ⟨tokens, hcollect, hrest⟩ | ⟨tokens, error, hcollect, hrest⟩
      · exact Or.inl ⟨token :: tokens, by simp [hcollect, Except.map], by simp [hrest]⟩
      · exact Or.inr ⟨token :: tokens, error, by simp [hcollect, Except.map], by simp [hrest]⟩

/-- Counting does what collecting does, and gives the number of the tokens or the same error. -/
theorem countFrom_eq_tryCollect (s : Scanner) (counted : ℕ) :
    s.countFrom counted =
      { answer := s.tryCollect.answer.map fun tokens => counted + tokens.length
        events := s.tryCollect.events
        scanner := s.tryCollect.scanner } := by
  induction s using item_induction generalizing counted with
  | ended s hend =>
    rw [countFrom_eq, tryCollect_eq_of_none hend, hend]
    rfl
  | found s item hnext ih =>
    cases item with
    | error error =>
      rw [countFrom_eq, tryCollect_eq_of_error hnext, hnext]
      rfl
    | ok token =>
      rw [countFrom_eq, tryCollect_eq_of_token hnext, hnext]
      simp only [ih]
      cases s.next.scanner.tryCollect.answer with
      | error error => rfl
      | ok tokens => simp [Except.map, Nat.add_comm 1, Nat.add_assoc]

/-- Locating tokens gives the tokens that are collected, each as the request for it does, or the
same error. -/
theorem located_cases {s : Scanner} (hfailed : s.failed = false) :
    (∃ places : List (Location × Token), s.located.answer = .ok places ∧
      s.tryCollect.answer = .ok (places.map Prod.snd) ∧
      ∀ i (hi : i < places.length),
        (s.afterRequests i).nextLocated.answer = .ok (some places[i])) ∨
    ∃ error, s.located.answer = .error error ∧ s.tryCollect.answer = .error error := by
  induction s using request_induction with
  | ended s hend =>
    rw [located_eq, nextLocated_answer, hend]
    exact Or.inl ⟨[], rfl, tryCollect_of_none hfailed hend, by simp⟩
  | found s hfound ih =>
    rw [located_eq, nextLocated_answer]
    cases hanswer : s.nextToken.answer with
    | error error => exact Or.inr ⟨error, rfl, tryCollect_of_error hfailed hanswer⟩
    | ok token? =>
      cases token? with
      | none => exact absurd hanswer hfound
      | some token =>
        have hkept : s.nextToken.scanner.failed = false := by rw [failed_nextToken, hfailed]
        rw [tryCollect_of_token hfailed hanswer]
        rcases ih hkept with ⟨places, hlocated, hcollect, hplaces⟩ |
          ⟨error, hlocated, hcollect⟩
        · refine Or.inl ⟨(s.nextToken.scanner.tokenStart, token) :: places, ?_, ?_, ?_⟩
          · simp [Except.map, hlocated]
          · simp [Except.map, hcollect]
          · intro i hi
            cases i with
            | zero => simp [afterRequests, nextLocated_answer, hanswer, Except.map]
            | succ i => exact hplaces i (by simpa using hi)
        · exact Or.inr ⟨error, by simp [Except.map, hlocated], by simp [Except.map, hcollect]⟩

/-- In front of a scanner of `source` there is white space and then, at `start`, a text that spells
the token. -/
def FacesAt (source : String) (s : Scanner) (start : Location) (token : Token) : Prop :=
  ∃ front gap text rest, source.toList = front ++ gap ++ text ++ rest ∧
    s.location = .behind front ∧ Text.IsSpace gap ∧ Spells text token ∧
    start = .behind (front ++ gap)

/-- A request for a located token answers as one for a token does, and a token comes with the place
where its text starts in the source. -/
structure LocatesAlike (source : String) (s : Scanner) : Prop where
  /-- Both requests leave the same scanner. -/
  scanner : s.nextLocated.scanner = s.nextToken.scanner
  /-- Both find the end of the text. -/
  none : s.nextLocated.answer = .ok none ↔ s.nextToken.answer = .ok none
  /-- Both fail with the same error. -/
  error : ∀ error, s.nextLocated.answer = .error error ↔ s.nextToken.answer = .error error
  /-- Both give the same token. -/
  token : ∀ token, s.nextToken.answer = .ok (some token) →
    ∃ start, s.nextLocated.answer = .ok (some (start, token)) ∧ s.FacesAt source start token

/-- Wherever a scanner of a source stands, a located token is where it says. -/
theorem HasRead.locatesAlike {source : String} {front : List Char} {s : Scanner}
    (h : s.HasRead source front) : s.LocatesAlike source := by
  refine ⟨rfl, ?_, ?_, ?_⟩
  · cases hanswer : s.nextToken.answer <;> simp [nextLocated_answer, hanswer, Except.map]
  · intro error
    cases hanswer : s.nextToken.answer <;> simp [nextLocated_answer, hanswer, Except.map]
  · intro token hanswer
    obtain ⟨gap, text, rest, hfinds⟩ := exists_finds_of_token hanswer
    have hsource := h.source_eq_of_finds hfinds
    refine ⟨.behind (front ++ gap), ?_, front, gap, text, rest, hsource, h.location_eq,
      hfinds.space, ?_, rfl⟩
    · rw [nextLocated_answer, hfinds.answer_eq, hfinds.tokenStart_eq, h.after_eq]
      rfl
    · cases hfinds.reads with
      | token hspells hends => exact hspells

/-- A token that a request locates starts at the place that comes with it. -/
theorem HasRead.facesAt {source : String} {front : List Char} {s : Scanner}
    (h : s.HasRead source front) {start : Location} {token : Token}
    (hplace : s.nextLocated.answer = .ok (some (start, token))) :
    s.FacesAt source start token := by
  have hanswer : s.nextToken.answer = .ok (some token) := by
    rw [nextLocated_answer] at hplace
    cases hfound : s.nextToken.answer with
    | error error => simp [hfound, Except.map] at hplace
    | ok token? => cases token? <;> simp_all [Except.map]
  obtain ⟨found, hfound, hfaces⟩ := h.locatesAlike.token token hanswer
  obtain rfl : found = start := by simpa [hfound] using hplace
  exact hfaces

/-- The ways to consume the rest of a scanner of `source` that has not yet given out an error. -/
structure ConsumedAlike (source : String) (s : Scanner) : Prop where
  /-- The items are what requests for tokens find, up to the first error. -/
  items : s.rest.answer = (Step.upToError s.steps).filterMap Step.result?
  /-- Requests for items give them one after the other, and then none. -/
  next : ∀ n, (s.afterItems n).next.answer = s.rest.answer[n]?
  /-- Skipping items gives the one behind them, and leads to where requests for items lead. -/
  nth : ∀ n, (s.nth n).answer = s.rest.answer[n]? ∧ (s.nth n).scanner = s.afterItems (n + 1)
  /-- Collecting gives the tokens exactly if all items are tokens. -/
  tokens : ∀ tokens, s.tryCollect.answer = .ok tokens ↔ s.rest.answer = tokens.map .ok
  /-- Collecting gives an error exactly if that is among the items, where it is the last one. -/
  error : ∀ error, s.tryCollect.answer = .error error ↔
    ∃ tokens : List Token, s.rest.answer = tokens.map .ok ++ [.error error]
  /-- Requests for located tokens give the same tokens and errors. -/
  located : s.LocatesAlike source

/-- A list of tokens is not one of tokens with an error behind them. -/
theorem map_ok_ne_append_error (tokens found : List Token) (error : LexError) :
    tokens.map Except.ok ≠ found.map Except.ok ++ [Except.error error] := by
  intro h
  have hmem : Except.error error ∈ tokens.map (Except.ok (ε := LexError)) := by simp [h]
  obtain ⟨token, _, htoken⟩ := List.mem_map.mp hmem
  cases htoken

/-- The ways to consume a scanner agree wherever it stands. -/
theorem HasRead.consumedAlike {source : String} {front : List Char} {s : Scanner}
    (h : s.HasRead source front) (hfailed : s.failed = false) : s.ConsumedAlike source where
  items := rest_eq_steps hfailed
  next := s.next_afterItems
  nth := s.nth_eq
  tokens := by
    intro tokens
    rcases s.tryCollect_cases with ⟨found, hcollect, hrest⟩ | ⟨found, error, hcollect, hrest⟩
    · rw [hcollect, hrest, List.map_inj_right (fun _ _ => Except.ok.inj)]
      simp
    · rw [hcollect, hrest]
      simp [(map_ok_ne_append_error tokens found error).symm]
  error := by
    intro error
    rcases s.tryCollect_cases with ⟨found, hcollect, hrest⟩ | ⟨found, last, hcollect, hrest⟩
    · rw [hcollect, hrest]
      simp [map_ok_ne_append_error]
    · rw [hcollect, hrest]
      constructor
      · rintro hlast
        obtain rfl := Except.error.inj hlast
        exact ⟨found, rfl⟩
      · rintro ⟨tokens, htokens⟩
        have hlast := congrArg List.getLast? htokens
        simpa using hlast
  located := h.locatesAlike

end Scanner

/-- The ways to consume a whole source. -/
structure SourceConsumedAlike (source : String) : Prop where
  /-- All tokens at once are the items of a new scanner, if these are tokens. -/
  tokens : ∀ tokens, tokenize source = .ok tokens ↔
    (Scanner.ofSource source).rest.answer = tokens.map .ok
  /-- All tokens at once are an error exactly if that is among the items of a new scanner, where it
  is the last one. -/
  error : ∀ error, tokenize source = .error error ↔
    ∃ tokens : List Token,
      (Scanner.ofSource source).rest.answer = tokens.map .ok ++ [.error error]
  /-- Scanning an input gives the same tokens with the places where they start. -/
  scan : ∀ (files : Files) (stdin : StandardInput) (input : Input),
    (input.read files stdin).text = .ok source →
    ∀ places, (input.scan files stdin).tokens = .ok places →
      tokenize source = .ok (places.map Prod.snd) ∧
      ∀ i (hi : i < places.length),
        ((Scanner.ofSource source).afterRequests i).nextLocated.answer = .ok (some places[i]) ∧
        ((Scanner.ofSource source).afterRequests i).FacesAt source places[i].1 places[i].2
  /-- Scanning an input fails exactly if there is an error, which it passes on with the name of the
  input. -/
  scanError : ∀ (files : Files) (stdin : StandardInput) (input : Input),
    (input.read files stdin).text = .ok source →
    ∀ failure, (input.scan files stdin).tokens = .error failure ↔
      ∃ error, tokenize source = .error error ∧ failure = .scan input.label error
  /-- Checking a file gives the number of its tokens, or passes on the same error. -/
  check : ∀ (files : Files) (path : String), (readSource files path).text = .ok source →
    (checkFile files path).outcome =
      ((tokenize source).map List.length).mapError (.scan path)

/-- All loops over a whole source agree. -/
theorem sourceConsumedAlike (source : String) : SourceConsumedAlike source := by
  have hnew : (Scanner.ofSource source).HasRead source [] := Cursor.hasRead_ofSource source
  have halike := hnew.consumedAlike rfl
  refine ⟨halike.tokens, halike.error, ?_, ?_, ?_⟩
  · intro files stdin input htext places hplaces
    rw [Input.scan, htext] at hplaces
    rcases Scanner.located_cases (s := Scanner.ofSource source) rfl with
      ⟨found, hlocated, hcollect, hfound⟩ | ⟨error, hlocated, hcollect⟩
    · simp only [hlocated, Except.mapError] at hplaces
      obtain rfl := Except.ok.inj hplaces
      refine ⟨hcollect, fun i hi => ⟨hfound i hi, ?_⟩⟩
      obtain ⟨more, hmore⟩ := hnew.afterRequests i
      exact hmore.facesAt (hfound i hi)
    · simp [hlocated, Except.mapError] at hplaces
  · intro files stdin input htext failure
    rw [Input.scan, htext, tokenize]
    rcases Scanner.located_cases (s := Scanner.ofSource source) rfl with
      ⟨found, hlocated, hcollect, hfound⟩ | ⟨error, hlocated, hcollect⟩
    · simp [hlocated, hcollect, Except.mapError]
    · simp [hlocated, hcollect, Except.mapError, eq_comm]
  · intro files path htext
    rw [checkFile, htext, tokenize]
    simp only [Scanner.countFrom_eq_tryCollect, Nat.zero_add]

/-- Whatever a scanner was asked before, unless it has given out an error as an item, all ways to
consume the rest agree on the items, the places of the tokens and where the scanner is left. For a
whole source the loops that collect, locate and count the tokens agree with them. -/
theorem consumers_agree (source : String) (requests : List Scanner.Request)
    (hfailed : ((Scanner.ofSource source).asked requests).failed = false) :
    ((Scanner.ofSource source).asked requests).ConsumedAlike source ∧
      SourceConsumedAlike source := by
  have hnew : (Scanner.ofSource source).HasRead source [] := Cursor.hasRead_ofSource source
  obtain ⟨more, hmore⟩ := hnew.asked requests
  exact ⟨hmore.consumedAlike hfailed, sourceConsumedAlike source⟩

/-- Behind a misfit run that a request for a token has met, the items go on. -/
theorem consumers_agree_behind_error :
    ((Scanner.ofSource ".5 a").asked [.token]).failed = false ∧
      ((Scanner.ofSource ".5 a").asked [.token]).ConsumedAlike ".5 a" ∧
      SourceConsumedAlike ".5 a" := by
  have hfailed : ((Scanner.ofSource ".5 a").asked [.token]).failed = false :=
    (Scanner.ofSource ".5 a").failed_nextToken
  exact ⟨hfailed, consumers_agree ".5 a" [.token] hfailed⟩

end Lexis
