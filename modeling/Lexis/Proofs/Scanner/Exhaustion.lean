import Lexis.Proofs.Scanner.Events
import Lexis.Proofs.Scanner.Spans

/-!
# Every scanner runs out

Each request that finds a token or an error takes a character that is not white space, and where it
finds the end of the text the scanner stays for good. So the number of such characters bounds what
can be found, and a loop that asks for one token after the other ends after one more call at the
latest. None of the loops has a bound of its own.
-/

namespace Lexis

namespace Scanner

/-- The number of characters ahead that are not white space. -/
def bareLeft (s : Scanner) : ℕ :=
  s.cursor.ahead.countP Text.isBare

/-- A request for a token that finds something takes at least one character that is not white
space. -/
theorem bareLeft_nextToken_lt {s : Scanner} (hfound : s.nextToken.answer ≠ .ok none) :
    s.nextToken.scanner.bareLeft < s.bareLeft := by
  obtain ⟨gap, text, rest, result, hfinds⟩ := exists_finds hfound
  obtain ⟨first, run, rfl, hfirst⟩ := hfinds.reads.exists_cons
  have hbare : Text.isBare first = true := by simp [Text.isBare, hfirst]
  have htext : 0 < (first :: run).countP Text.isBare :=
    List.countP_pos_iff.mpr ⟨first, List.mem_cons_self, hbare⟩
  rw [bareLeft, bareLeft, hfinds.ahead_nextToken, hfinds.ahead, List.countP_append,
    List.countP_append]
  omega

/-- No request adds to the characters ahead that are not white space. -/
theorem bareLeft_asked_le (s : Scanner) (requests : List Request) :
    (s.asked requests).bareLeft ≤ s.bareLeft := by
  refine asked_keeps (P := fun t => t.bareLeft ≤ s.bareLeft) ?_ ?_ requests (Nat.le_refl _)
  · intro t ht
    obtain ⟨n, hadvance⟩ := t.exists_advance_nextToken
    refine Nat.le_trans ?_ ht
    rw [bareLeft, hadvance, Cursor.ahead_advance]
    exact (List.drop_sublist n _).countP_le
  · exact fun t ht => ht

/-- An item takes at least one character that is not white space. -/
theorem bareLeft_next_lt {s : Scanner} {item : Except LexError Token}
    (h : s.next.answer = some item) : s.next.scanner.bareLeft < s.bareLeft := by
  by_cases hfailed : s.failed = true
  · simp [next_of_failed hfailed] at h
  · have hunmarked : s.failed = false := by simpa using hfailed
    have hanswer := (next_eq_some_iff hunmarked item).mp h
    have hlt : s.nextToken.scanner.bareLeft < s.bareLeft :=
      bareLeft_nextToken_lt (by rw [hanswer]; cases item <;> simp [Except.map])
    cases item with
    | error error =>
      rw [next_of_error hunmarked hanswer]
      exact hlt
    | ok token =>
      rw [next_of_token hunmarked hanswer]
      exact hlt

/-- Each of the next items takes a character that is not white space. -/
theorem length_take_rest_le (n : ℕ) (s : Scanner) :
    (s.rest.answer.take n).length + (s.afterItems n).bareLeft ≤ s.bareLeft := by
  induction n generalizing s with
  | zero => simp [afterItems]
  | succ n ih =>
    cases hnext : s.next.answer with
    | none =>
      have hkept := s.bareLeft_asked_le [.item]
      rw [rest_of_none hnext, afterItems_of_none hnext, List.take_nil, List.length_nil,
        Nat.zero_add]
      exact hkept
    | some item =>
      have hlt := bareLeft_next_lt hnext
      have hlater := ih s.next.scanner
      rw [rest_of_some hnext, List.take_succ_cons, List.length_cons, afterItems]
      omega

/-- A request takes a character that is not white space for every token or error that it returns. -/
theorem Request.length_results_le (s : Scanner) (request : Request) :
    (request.results s).length + (request.apply s).bareLeft ≤ s.bareLeft := by
  have hcall : s.found?.toList.length + s.nextToken.scanner.bareLeft ≤ s.bareLeft := by
    by_cases hend : s.nextToken.answer = .ok none
    · have hkept : s.nextToken.scanner.bareLeft ≤ s.bareLeft := s.bareLeft_asked_le [.token]
      rw [found?, hend]
      simpa [result?] using hkept
    · have hlt := bareLeft_nextToken_lt hend
      have hone : s.found?.toList.length ≤ 1 := by cases s.found? <;> simp
      omega
  -- A located token is the same result as the token without its place.
  have hlocated : Request.results s .located = s.found?.toList := by
    rw [results_eq, calls]
    cases hfound : s.found? <;> simp [hfound]
  have hrest := length_take_rest_le (s.rest.answer.length + 1) s
  rw [List.take_of_length_le (Nat.le_succ _)] at hrest
  cases request with
  | token => exact hcall
  | located =>
    rw [hlocated]
    exact hcall
  | item =>
    have hitem := length_take_rest_le 1 s
    rwa [← results_itemCalls, ← Request.calls, ← results_eq] at hitem
  | nth n =>
    rw [apply, (s.nth_eq n).2]
    exact length_take_rest_le (n + 1) s
  | rest =>
    rw [apply, scanner_rest]
    exact hrest
  | collect =>
    rw [apply, scanner_tryCollect]
    exact hrest

/-- A sequence of requests takes a character that is not white space for every token or error that
it returns. -/
theorem length_throughout_results_le (s : Scanner) (requests : List Request) :
    (throughout Request.results s requests).length + (s.asked requests).bareLeft ≤
      s.bareLeft := by
  induction requests generalizing s with
  | nil => simp [throughout, asked]
  | cons request later ih =>
    have hfirst := request.length_results_le s
    have hlater := ih (request.apply s)
    have hasked : s.asked (request :: later) = (request.apply s).asked later := rfl
    rw [throughout, List.length_append, hasked]
    omega

/-- No request to the scanner finds anything, tells anything, or moves it. -/
structure StaysPut (s : Scanner) : Prop where
  /-- There is no token. -/
  token : s.nextToken = { answer := .ok none, events := [], scanner := s }
  /-- There is no located token. -/
  located : s.nextLocated = { answer := .ok none, events := [], scanner := s }
  /-- There is no item. -/
  item : s.next = { answer := none, events := [], scanner := s }
  /-- There is no item behind any number of others. -/
  nth : ∀ n, s.nth n = { answer := none, events := [], scanner := s }
  /-- No items remain. -/
  rest : s.rest = { answer := [], events := [], scanner := s }
  /-- No token is collected, and no error is met. -/
  collect : s.tryCollect = { answer := .ok [], events := [], scanner := s }
  /-- Any sequence of requests leaves the scanner as it is. -/
  asked : ∀ requests, s.asked requests = s

/-- A scanner that does not move to find the end of the text never moves. -/
theorem staysPut_of_nextToken {s : Scanner}
    (h : s.nextToken = { answer := .ok none, events := [], scanner := s }) : s.StaysPut := by
  have hlocated : s.nextLocated = { answer := .ok none, events := [], scanner := s } := by
    rw [nextLocated, h]
    rfl
  have hitem : s.next = { answer := none, events := [], scanner := s } := by
    by_cases hfailed : s.failed = true
    · exact next_of_failed hfailed
    · rw [next_of_end (by simpa using hfailed) (by rw [h]), h]
  have hnth : ∀ n, s.nth n = { answer := none, events := [], scanner := s } := by
    intro n
    cases n with
    | zero => exact hitem
    | succ n => rw [Scanner.nth, hitem]
  have hnone : s.next.answer = none := by rw [hitem]
  have hrest : s.rest = { answer := [], events := [], scanner := s } := by
    rw [rest_eq_of_none hnone, hitem]
  have hcollect : s.tryCollect = { answer := .ok [], events := [], scanner := s } := by
    rw [tryCollect_eq_of_none hnone, hitem]
  have happly : ∀ request : Request, request.apply s = s := by
    intro request
    cases request with
    | token => rw [Request.apply, h]
    | located => rw [Request.apply, hlocated]
    | item => rw [Request.apply, hitem]
    | nth n => rw [Request.apply, hnth]
    | rest => rw [Request.apply, hrest]
    | collect => rw [Request.apply, hcollect]
  refine ⟨h, hlocated, hitem, hnth, hrest, hcollect, fun requests => ?_⟩
  induction requests with
  | nil => rfl
  | cons request later ih =>
    have hasked : s.asked (request :: later) = (request.apply s).asked later := rfl
    rw [hasked, happly, ih]

/-- What a request for a token does to a scanner of the source. -/
structure Progresses (source : String) (s : Scanner) : Prop where
  /-- A request that finds a token or an error reads on by at least one character. -/
  forward : s.nextToken.answer ≠ .ok none → ∃ taken, taken ≠ [] ∧
    s.cursor.ahead = taken ++ s.nextToken.scanner.cursor.ahead ∧
    s.nextToken.scanner.location = s.location.after taken ∧
    s.location.offset < s.nextToken.scanner.location.offset
  /-- A request that finds the end of the text stops there, and the next token would start there. -/
  atEnd : s.nextToken.answer = .ok none →
    s.nextToken.scanner.location.offset = source.utf8ByteSize ∧
    s.nextToken.scanner.tokenStart = s.nextToken.scanner.location
  /-- Once a request has found the end of the text, the scanner stays as it is. -/
  still : s.nextToken.answer = .ok none → s.nextToken.scanner.StaysPut

/-- Wherever a scanner of the source stands, a request for a token moves it on, or finds the end of
the text and leaves it there. -/
theorem HasRead.progresses {source : String} {front : List Char} {s : Scanner}
    (h : s.HasRead source front) : s.Progresses source := by
  constructor
  case forward =>
    intro hfound
    obtain ⟨gap, text, rest, result, hfinds⟩ := exists_finds hfound
    obtain ⟨first, run, htext, -⟩ := hfinds.reads.exists_cons
    have hcovered := h.coveredBy hfinds
    refine ⟨gap ++ text, by simp [htext], ?_, ?_, ?_⟩
    · rw [hfinds.ahead_nextToken, hfinds.ahead, List.append_assoc]
    · rw [hfinds.location_nextToken, Location.after_append]
    · exact Nat.lt_of_le_of_lt hcovered.start_ge hcovered.start_lt
  case atEnd =>
    intro hend
    have hlast := h.endsAt (isSpace_of_answer hend)
    exact ⟨hlast.stop, hlast.tokenStart⟩
  case still =>
    intro hend
    exact staysPut_of_nextToken (nextToken_again hend)

/-- `Repeats request goesOn s replies s'`: a loop that makes the request to `s` and, as long as it
goes on after the answer, to the scanner that is left, gets these replies and leaves `s'`. -/
inductive Repeats {α : Type} (request : Scanner → Reply α) (goesOn : α → Prop) :
    Scanner → List (Reply α) → Scanner → Prop
  /-- The loop ends at the first answer that it does not go on after. -/
  | last {s : Scanner} (hends : ¬ goesOn (request s).answer) :
      Repeats request goesOn s [request s] (request s).scanner
  /-- After any other answer the loop goes on from there. -/
  | more {s s' : Scanner} {replies : List (Reply α)} (hgoes : goesOn (request s).answer)
      (hlater : Repeats request goesOn (request s).scanner replies s') :
      Repeats request goesOn s (request s :: replies) s'

/-- A loop that goes on only where it has taken a character that is not white space ends, with one
call more than there are such characters at the latest. -/
theorem exists_repeats {α : Type} (request : Scanner → Reply α) (goesOn : α → Prop)
    (htakes : ∀ s, goesOn (request s).answer → (request s).scanner.bareLeft < s.bareLeft)
    (s : Scanner) :
    ∃ replies s', Repeats request goesOn s replies s' ∧ replies.length ≤ s.bareLeft + 1 := by
  -- The loop may leave several characters behind in one call, so the induction is strong.
  induction hleft : s.bareLeft using Nat.strongRecOn generalizing s with
  | ind left ih =>
    by_cases hgoes : goesOn (request s).answer
    · have hlt := hleft ▸ htakes s hgoes
      obtain ⟨replies, s', hlater, hlength⟩ := ih _ hlt (request s).scanner rfl
      exact ⟨_, s', .more hgoes hlater, by rw [List.length_cons]; omega⟩
    · exact ⟨_, _, .last hgoes, by simp⟩

/-- Results that begin with an error give the error, whatever follows. -/
theorem mapM_error_cons {α : Type} (error : LexError) (later : List (Except LexError α)) :
    (.error error :: later).mapM id = .error error := by
  rw [List.mapM_cons]
  rfl

/-- Results that begin with no error give the first one and what the others give. -/
theorem mapM_ok_cons {α : Type} (found : α) (later : List (Except LexError α)) :
    (.ok found :: later).mapM id = (later.mapM id).map (found :: ·) := by
  rw [List.mapM_cons]
  cases later.mapM id <;> rfl

/-- A loop over the items goes on after a token. -/
def IsTokenItem (item? : Option (Except LexError Token)) : Prop :=
  ∃ token, item? = some (.ok token)

/-- Collecting tokens asks for items as long as they are tokens, and puts the answers together. -/
theorem Repeats.tryCollect_eq {s s' : Scanner}
    {replies : List (Reply (Option (Except LexError Token)))}
    (h : Repeats next IsTokenItem s replies s') :
    s.tryCollect =
      { answer := (replies.filterMap Reply.answer).mapM id
        events := replies.flatMap Reply.events
        scanner := s' } := by
  induction h with
  | @last s hends =>
    rw [List.flatMap_singleton]
    cases hitem : s.next.answer with
    | none =>
      rw [tryCollect_eq_of_none hitem, List.filterMap_cons_none hitem]
      rfl
    | some item =>
      cases item with
      | error error =>
        rw [tryCollect_eq_of_error hitem, List.filterMap_cons_some hitem, mapM_error_cons]
      | ok token => exact absurd ⟨token, hitem⟩ hends
  | @more s s' replies hgoes hlater ih =>
    obtain ⟨token, hitem⟩ := hgoes
    rw [tryCollect_eq_of_token hitem, ih, List.filterMap_cons_some hitem, mapM_ok_cons,
      List.flatMap_cons]

/-- Counting tokens asks for items as long as they are tokens, and counts these. -/
theorem Repeats.countFrom_eq {s s' : Scanner}
    {replies : List (Reply (Option (Except LexError Token)))}
    (h : Repeats next IsTokenItem s replies s') (counted : ℕ) :
    s.countFrom counted =
      { answer := ((replies.filterMap Reply.answer).mapM id).map (counted + ·.length)
        events := replies.flatMap Reply.events
        scanner := s' } := by
  rw [countFrom_eq_tryCollect, h.tryCollect_eq]

/-- A loop over the located tokens goes on after a located token. -/
def IsLocatedToken (answer : Except LexError (Option (Location × Token))) : Prop :=
  ∃ place, answer = .ok (some place)

/-- A located token takes a character that is not white space. -/
theorem bareLeft_nextLocated_lt {s : Scanner} (h : IsLocatedToken s.nextLocated.answer) :
    s.nextLocated.scanner.bareLeft < s.bareLeft := by
  obtain ⟨place, hplace⟩ := h
  refine bareLeft_nextToken_lt fun hend => ?_
  simp [nextLocated_answer, hend, Except.map] at hplace

/-- Locating tokens asks for located tokens as long as there are any, and puts the answers
together. -/
theorem Repeats.located_eq {s s' : Scanner}
    {replies : List (Reply (Except LexError (Option (Location × Token))))}
    (h : Repeats nextLocated IsLocatedToken s replies s') :
    s.located =
      { answer := (replies.filterMap fun r => result? r.answer).mapM id
        events := replies.flatMap Reply.events
        scanner := s' } := by
  induction h with
  | @last s hends =>
    rw [located, List.flatMap_singleton]
    split
    · next hend =>
      rw [List.filterMap_cons_none (by rw [hend]; rfl)]
      rfl
    · next error herror =>
      rw [List.filterMap_cons_some (by rw [herror]; rfl), mapM_error_cons]
    · next place hplace => exact absurd ⟨place, hplace⟩ hends
  | @more s s' replies hgoes hlater ih =>
    obtain ⟨place, hplace⟩ := hgoes
    rw [located, List.filterMap_cons_some (by rw [hplace]; rfl), mapM_ok_cons,
      List.flatMap_cons]
    split
    · next hend => simp [hplace] at hend
    · next error herror => simp [hplace] at herror
    · next found hfound =>
      obtain rfl : place = found := by simpa [hplace] using hfound
      rw [ih]

/-- The steps are the replies of a loop that goes on after errors too. -/
theorem Repeats.steps_eq {s s' : Scanner}
    {replies : List (Reply (Except LexError (Option Token)))}
    (h : Repeats nextToken (· ≠ .ok none) s replies s') : s.steps = replies.map Reply.step := by
  induction h with
  | last hends => exact steps_of_end (not_not.mp hends)
  | more hgoes hlater ih => rw [steps_of_result hgoes, ih, List.map_cons]

end Scanner

/-- The number of characters of a source that are not white space. -/
def bareCount (source : String) : ℕ :=
  source.toList.countP Text.isBare

/-- How far requests to a scanner of the source can go, and how long the loops over it can take. -/
structure RunsOut (source : String) : Prop where
  /-- Wherever requests lead, a request for a token reads on, or finds the end for good. -/
  progress : ∀ requests, ((Scanner.ofSource source).asked requests).Progresses source
  /-- All tokens and errors that are ever returned take a character each that is not white space. -/
  results : ∀ requests,
    (Scanner.throughout Scanner.Request.results (.ofSource source) requests).length ≤
      bareCount source
  /-- A loop that goes on after errors may begin anywhere. It ends, and it takes at most one call
  more than there are such characters left for it. -/
  steps : ∀ requests, ∃ replies s',
    Scanner.Repeats Scanner.nextToken (· ≠ .ok none) ((Scanner.ofSource source).asked requests)
      replies s' ∧
    (Scanner.throughout Scanner.Request.results (.ofSource source) requests).length +
      replies.length ≤ bareCount source + 1 ∧
    ((Scanner.ofSource source).asked requests).steps = replies.map Reply.step
  /-- Collecting all tokens is such a loop over the items, which ends at an error. -/
  tokenize : ∃ replies s',
    Scanner.Repeats Scanner.next Scanner.IsTokenItem (.ofSource source) replies s' ∧
    replies.length ≤ bareCount source + 1 ∧
    tokenize source = (replies.filterMap Reply.answer).mapM id
  /-- Scanning an input is one over the located tokens. -/
  scan : ∀ (files : Files) (stdin : StandardInput) (input : Input),
    (input.read files stdin).text = .ok source → ∃ replies s',
      Scanner.Repeats Scanner.nextLocated Scanner.IsLocatedToken (.ofSource source) replies s' ∧
      replies.length ≤ bareCount source + 1 ∧
      input.scan files stdin =
        { events := (input.read files stdin).events ++ replies.flatMap Reply.events
          tokens := ((replies.filterMap fun r => Scanner.result? r.answer).mapM id).mapError
            (.scan input.label) }
  /-- Checking a file is one over the items. -/
  check : ∀ (files : Files) (path : String), (readSource files path).text = .ok source →
    ∃ replies s',
      Scanner.Repeats Scanner.next Scanner.IsTokenItem (.ofSource source) replies s' ∧
      replies.length ≤ bareCount source + 1 ∧
      checkFile files path =
        { events := (readSource files path).events ++ replies.flatMap Reply.events
          outcome := (((replies.filterMap Reply.answer).mapM id).map List.length).mapError
            (.scan path) }

/-- Every scanner runs out, and so do the loops over it: what they find is bounded by the number of
characters that are not white space, and one more call finds the end. -/
theorem scanner_runs_out (source : String) : RunsOut source := by
  have hnew : (Scanner.ofSource source).HasRead source [] := Cursor.hasRead_ofSource source
  obtain ⟨items, last, hitems, hcalls⟩ :=
    Scanner.exists_repeats Scanner.next Scanner.IsTokenItem
      (fun _ ⟨_, hitem⟩ => Scanner.bareLeft_next_lt hitem) (Scanner.ofSource source)
  constructor
  case progress =>
    intro requests
    obtain ⟨more, hmore⟩ := hnew.asked requests
    exact hmore.progresses
  case results =>
    intro requests
    have hpaid := Scanner.length_throughout_results_le (.ofSource source) requests
    exact Nat.le_trans (Nat.le_add_right _ _) hpaid
  case steps =>
    intro requests
    have hpaid := Scanner.length_throughout_results_le (.ofSource source) requests
    obtain ⟨replies, s', hrepeats, hlength⟩ :=
      Scanner.exists_repeats Scanner.nextToken (· ≠ .ok none)
        (fun _ => Scanner.bareLeft_nextToken_lt) ((Scanner.ofSource source).asked requests)
    refine ⟨replies, s', hrepeats, ?_, hrepeats.steps_eq⟩
    have hall : (Scanner.ofSource source).bareLeft = bareCount source := rfl
    omega
  case tokenize =>
    exact ⟨items, last, hitems, hcalls, by rw [Lexis.tokenize, hitems.tryCollect_eq]⟩
  case scan =>
    intro files stdin input htext
    obtain ⟨replies, s', hrepeats, hlength⟩ :=
      Scanner.exists_repeats Scanner.nextLocated Scanner.IsLocatedToken
        (fun _ => Scanner.bareLeft_nextLocated_lt) (Scanner.ofSource source)
    refine ⟨replies, s', hrepeats, hlength, ?_⟩
    rw [Input.scan, htext]
    simp only [hrepeats.located_eq]
  case check =>
    intro files path htext
    refine ⟨items, last, hitems, hcalls, ?_⟩
    rw [checkFile, htext]
    simp only [hitems.countFrom_eq, Nat.zero_add]

end Lexis
