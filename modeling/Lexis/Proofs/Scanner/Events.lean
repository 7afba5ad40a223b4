import Mathlib.Data.List.Forall2
import Lexis.Proofs.Scanner.Sessions

/-!
# The log of a scanner

While a scanner is asked, it tells events. However it is asked, for tokens, for items, or for
several items at once, each request comes down to calls for single tokens. A call that finds a token
or an error tells one event of that, and nothing else is told. So the events and the results of any
sequence of requests correspond one to one and in order.
-/

namespace Lexis

namespace Scanner

/-- What a request has found, unless it is the end of the text. -/
def result? {α : Type} : Except LexError (Option α) → Option (Except LexError α)
  | .ok none => none
  | .ok (some found) => some (.ok found)
  | .error error => some (.error error)

/-- What a call for a token finds. -/
def found? (s : Scanner) : Option (Except LexError Token) :=
  result? s.nextToken.answer

/-- The tokens and errors that a request returns, the skipped and the collected ones included. -/
def Request.results (s : Scanner) : Request → List (Except LexError Token)
  | .token => s.found?.toList
  | .located => ((result? s.nextLocated.answer).map (Except.map Prod.snd)).toList
  | .item => s.next.answer.toList
  | .nth n => s.rest.answer.take (n + 1)
  | .rest => s.rest.answer
  | .collect => s.rest.answer

/-- The events that a request causes. -/
def Request.events (s : Scanner) : Request → List Event
  | .token => s.nextToken.events
  | .located => s.nextLocated.events
  | .item => s.next.events
  | .nth n => (s.nth n).events
  | .rest => s.rest.events
  | .collect => s.tryCollect.events

/-- The scanners that are called for a token when up to `n` items are asked for. None is called once
an error has been an item, nor behind the end of the items. -/
def itemCalls : ℕ → Scanner → List Scanner
  | 0, _ => []
  | n + 1, s =>
    if s.failed then []
    else s :: (if s.next.answer = none then [] else itemCalls n s.next.scanner)

/-- The scanners that are called for a token by a request. -/
def Request.calls (s : Scanner) : Request → List Scanner
  | .token => [s]
  | .located => [s]
  | .item => itemCalls 1 s
  | .nth n => itemCalls (n + 1) s
  | .rest => itemCalls (s.rest.answer.length + 1) s
  | .collect => itemCalls (s.rest.answer.length + 1) s

/-- A request for items to a marked scanner calls none. -/
theorem Request.calls_of_failed {s : Scanner} (hfailed : s.failed = true) {request : Request}
    (hitems : request.asksForItems = true) : request.calls s = [] := by
  have hnone : ∀ n, itemCalls n s = [] := by
    intro n
    cases n with
    | zero => rfl
    | succ n => rw [itemCalls, if_pos hfailed]
  cases request with
  | token => cases hitems
  | located => cases hitems
  | item => exact hnone 1
  | nth n => exact hnone (n + 1)
  | rest => exact hnone _
  | collect => exact hnone _

/-- What the requests of a sequence amount to one after the other, if each amounts to `f`. -/
def throughout {α : Type} (f : Scanner → Request → List α) (s : Scanner) :
    List Request → List α
  | [] => []
  | request :: later => f s request ++ throughout f (request.apply s) later

/-- The event of a call for a token, unless it finds the end of the text. -/
def event? (s : Scanner) : Option Event :=
  match s.nextLocated.answer with
  | .ok none => none
  | .ok (some (start, token)) => some (.tokenScanned token.kind start)
  | .error error => some (.scanFailed error)

/-- A call for a token tells its event. -/
theorem events_nextToken (s : Scanner) : s.nextToken.events = s.event?.toList := by
  rcases s.isSpace_or_finds with hspace | ⟨gap, text, rest, result, hfinds⟩
  · simp [event?, nextLocated_answer, nextToken_of_isSpace hspace, Except.map]
  · obtain ⟨gathered, hnext⟩ := hfinds.nextToken_eq
    rw [event?, nextLocated_answer, hfinds.tokenStart_eq, hnext]
    cases result <;> simp [Except.map, readingEvent]

/-- A request for an item tells the event of its call for a token, if it makes one. -/
theorem events_next (s : Scanner) :
    s.next.events = if s.failed then [] else s.event?.toList := by
  rw [← events_nextToken]
  by_cases hfailed : s.failed = true
  · rw [if_pos hfailed, next_of_failed hfailed]
  · have hunmarked : s.failed = false := by simpa using hfailed
    rw [if_neg hfailed]
    cases hanswer : s.nextToken.answer with
    | error error => rw [next_of_error hunmarked hanswer]
    | ok token? =>
      cases token? with
      | none => rw [next_of_end hunmarked hanswer]
      | some token => rw [next_of_token hunmarked hanswer]

/-- The next item is what a call for a token finds, unless the scanner is marked. -/
theorem next_answer (s : Scanner) :
    s.next.answer = if s.failed then none else s.found? := by
  unfold found?
  by_cases hfailed : s.failed = true
  · rw [if_pos hfailed, next_of_failed hfailed]
  · have hunmarked : s.failed = false := by simpa using hfailed
    rw [if_neg hfailed]
    cases hanswer : s.nextToken.answer with
    | error error => rw [next_of_error hunmarked hanswer]; rfl
    | ok token? =>
      cases token? with
      | none => rw [next_of_end hunmarked hanswer]; rfl
      | some token => rw [next_of_token hunmarked hanswer]; rfl

/-- Asking for items calls for a token and, if it is an item, goes on behind it. -/
theorem filterMap_itemCalls {α : Type} (f : Scanner → Option α) (n : ℕ) (s : Scanner) :
    (itemCalls (n + 1) s).filterMap f =
      (if s.failed then [] else (f s).toList) ++
        if s.next.answer = none then [] else (itemCalls n s.next.scanner).filterMap f := by
  rw [itemCalls]
  by_cases hfailed : s.failed = true
  · simp [hfailed, next_of_failed hfailed]
  · by_cases hnone : s.next.answer = none
    · cases hf : f s <;> simp [hfailed, hnone, hf]
    · cases hf : f s <;> simp [hfailed, hnone, hf]

/-- The calls for items find the next items. -/
theorem results_itemCalls (n : ℕ) (s : Scanner) :
    (itemCalls n s).filterMap found? = s.rest.answer.take n := by
  induction n generalizing s with
  | zero => rfl
  | succ n ih =>
    have hitem : s.next.answer.toList =
        if s.failed then [] else s.found?.toList := by
      rw [next_answer]
      split <;> rfl
    rw [filterMap_itemCalls, ih, ← hitem]
    cases hanswer : s.next.answer with
    | none => simp [rest_of_none hanswer]
    | some item => simp [rest_of_some hanswer]

/-- Skipping items tells the events of the calls for those items and for the one behind them. -/
theorem events_nth (n : ℕ) (s : Scanner) :
    (s.nth n).events = (itemCalls (n + 1) s).filterMap event? := by
  induction n generalizing s with
  | zero => rw [filterMap_itemCalls, ← events_next, itemCalls, List.filterMap_nil, ite_self,
      List.append_nil, nth]
  | succ n ih =>
    rw [filterMap_itemCalls, ← events_next, ← ih, nth]
    cases hanswer : s.next.answer with
    | none => simp
    | some item => simp

/-- Asking for all items tells the events of the next one and of those behind it. -/
theorem events_rest_eq (s : Scanner) :
    s.rest.events =
      s.next.events ++ if s.next.answer = none then [] else s.next.scanner.rest.events := by
  rw [rest]
  split <;> simp [*]

/-- A collection tells the events of the next item and, unless that ends it, of what is collected
behind it. -/
theorem events_tryCollect_eq (s : Scanner) :
    s.tryCollect.events =
      match s.next.answer with
      | some (.ok _) => s.next.events ++ s.next.scanner.tryCollect.events
      | _ => s.next.events := by
  rw [tryCollect]
  split <;> simp [*]

/-- Asking for all items tells the events of the calls up to the end of the items. -/
theorem events_rest (s : Scanner) :
    s.rest.events = (itemCalls (s.rest.answer.length + 1) s).filterMap event? := by
  induction s using item_induction with
  | ended s hend => rw [filterMap_itemCalls, ← events_next, events_rest_eq, if_pos hend,
      if_pos hend]
  | found s item hitem ih =>
    rw [filterMap_itemCalls, ← events_next, events_rest_eq, ih, rest_of_some hitem,
      List.length_cons]

/-- Collecting tokens tells the events that asking for all items tells. -/
theorem events_tryCollect (s : Scanner) : s.tryCollect.events = s.rest.events := by
  induction s using item_induction with
  | ended s hend => rw [events_tryCollect_eq, events_rest_eq, hend]; simp
  | found s item hitem ih =>
    rw [events_tryCollect_eq, events_rest_eq, hitem]
    cases item with
    | ok token => simp [ih]
    | error error =>
      -- Behind the error no items are asked for, and none would tell anything.
      have hnothing : s.next.scanner.rest.events = [] := by
        rw [events_rest, itemCalls, if_pos (failed_of_next_error hitem), List.filterMap_nil]
      simp [hnothing]

/-- The events of a request are those of its calls. -/
theorem Request.events_eq (s : Scanner) (request : Request) :
    request.events s = (request.calls s).filterMap event? := by
  have hsingle : s.nextToken.events = [s].filterMap event? := by
    rw [events_nextToken]
    cases hevent : s.event? <;> simp [hevent]
  cases request with
  | token => exact hsingle
  | located => exact hsingle
  | item => exact events_nth 0 s
  | nth n => exact events_nth n s
  | rest => exact events_rest s
  | collect => exact (events_tryCollect s).trans (events_rest s)

/-- The results of a request are what its calls find. -/
theorem Request.results_eq (s : Scanner) (request : Request) :
    request.results s = (request.calls s).filterMap found? := by
  have hsingle : s.found?.toList = [s].filterMap found? := by
    cases hfound : s.found? <;> simp [hfound]
  cases request with
  | token => exact hsingle
  | located =>
    rw [calls, ← hsingle, results, nextLocated_answer, found?]
    cases s.nextToken.answer with
    | error error => rfl
    | ok token? => cases token? <;> rfl
  | item =>
    rw [calls, results_itemCalls, results]
    cases hanswer : s.next.answer with
    | none => rw [rest_of_none hanswer]; rfl
    | some item => rw [rest_of_some hanswer]; rfl
  | nth n => rw [calls, results_itemCalls, results]
  | rest => rw [calls, results_itemCalls, results, List.take_of_length_le (by omega)]
  | collect => rw [calls, results_itemCalls, results, List.take_of_length_le (by omega)]

/-- What comes of the calls of each request of a sequence comes of the calls of the whole
sequence. -/
theorem throughout_eq_filterMap {α : Type} {f : Scanner → Request → List α}
    {g : Scanner → Option α} (h : ∀ s request, f s request = (request.calls s).filterMap g)
    (s : Scanner) (requests : List Request) :
    throughout f s requests =
      (throughout Request.calls s requests).filterMap g := by
  induction requests generalizing s with
  | nil => rfl
  | cons request later ih => rw [throughout, throughout, List.filterMap_append, h, ih]

section Calls

variable {source : String} {front : List Char} {s t : Scanner}

/-- A scanner that is called for an item stands behind a prefix of the source. -/
theorem HasRead.itemCall (h : s.HasRead source front) {n : ℕ} (ht : t ∈ itemCalls n s) :
    ∃ front', t.HasRead source front' := by
  induction n generalizing s front with
  | zero => cases ht
  | succ n ih =>
    rw [itemCalls] at ht
    split at ht
    · cases ht
    · rcases List.mem_cons.mp ht with rfl | hlater
      · exact ⟨front, h⟩
      · obtain ⟨more, hmore⟩ := h.asked [.item]
        split at hlater
        · cases hlater
        · exact ih hmore hlater

/-- Every scanner that a sequence of requests calls for a token stands behind a prefix of the
source. -/
theorem HasRead.call (h : s.HasRead source front) {requests : List Request}
    (ht : t ∈ throughout Request.calls s requests) :
    ∃ front', t.HasRead source front' := by
  induction requests generalizing s front with
  | nil => cases ht
  | cons request later ih =>
    rcases List.mem_append.mp ht with hfirst | hlater
    · cases request with
      | token => exact ⟨front, List.mem_singleton.mp hfirst ▸ h⟩
      | located => exact ⟨front, List.mem_singleton.mp hfirst ▸ h⟩
      | item => exact h.itemCall hfirst
      | nth n => exact h.itemCall hfirst
      | rest => exact h.itemCall hfirst
      | collect => exact h.itemCall hfirst
    · obtain ⟨more, hmore⟩ := h.asked [request]
      exact ih hmore hlater

end Calls

end Scanner

/-- The word by which the log names the kind of a token. -/
inductive Token.IsNamed : Token → String → Prop
  /-- A text between quotation marks. -/
  | string (text : String) : (Token.string text).IsNamed "string"
  /-- A word. -/
  | name (text : String) : (Token.name text).IsNamed "name"
  /-- A character of punctuation. -/
  | symbol (char : Char) : (Token.symbol char).IsNamed "symbol"
  /-- A run of digits. -/
  | number (value : Binary64) : (Token.number value).IsNamed "number"

/-- The log names a token by the word for its kind. -/
theorem Token.isNamed_word (token : Token) : token.IsNamed token.kind.word := by
  cases token with
  | string text => exact .string text
  | name text => exact .name text
  | symbol char => exact .symbol char
  | number value => exact .number value

namespace Scanner

/-- An event tells of what a call for a token to a scanner of the source has found. -/
inductive Tells (source : String) (s : Scanner) : Except LexError Token → Event → Prop
  /-- A token is traced with its kind and with the line and the column where its text starts. -/
  | token {start : Location} {token : Token} {event : Event} {word : String}
      (hfaces : s.FacesAt source start token) (hseverity : event.severity = .trace)
      (hword : token.IsNamed word)
      (hfields : event.fields = [("kind", .text word), ("line", .count start.line.toNat),
        ("column", .count start.column.toNat)]) : Tells source s (.ok token) event
  /-- An error is told with its wording. -/
  | error {error : LexError} {event : Event} (hseverity : event.severity = .debug)
      (hfields : event.fields = [("error", .text error.message)]) :
      Tells source s (.error error) event

/-- A call finds the end of the text, and there is no event, or it finds something that its event
tells of. -/
theorem HasRead.tells {source : String} {front : List Char} {s : Scanner}
    (h : s.HasRead source front) :
    (s.nextToken.answer = .ok none ∧ s.event? = none) ∨
      ∃ result event, s.nextToken.answer = result.map some ∧ s.event? = some event ∧
        Tells source s result event := by
  have halike := h.locatesAlike
  cases hanswer : s.nextToken.answer with
  | error error =>
    refine Or.inr ⟨.error error, .scanFailed error, rfl, ?_, .error rfl rfl⟩
    rw [event?, (halike.error error).mpr hanswer]
  | ok token? =>
    cases token? with
    | none => exact Or.inl ⟨rfl, by rw [event?, halike.none.mpr hanswer]⟩
    | some token =>
      obtain ⟨start, hlocated, hfaces⟩ := halike.token token hanswer
      refine Or.inr ⟨.ok token, .tokenScanned token.kind start, rfl, ?_,
        .token hfaces rfl token.isNamed_word rfl⟩
      rw [event?, hlocated]

/-- One by one, the events of calls tell of what the calls have found. -/
theorem forall₂_tells {source : String} {calls : List Scanner}
    (h : ∀ s ∈ calls, ∃ front, s.HasRead source front) :
    List.Forall₂ (fun result event => ∃ s : Scanner, s.Tells source result event)
      (calls.filterMap found?) (calls.filterMap event?) := by
  induction calls with
  | nil => exact .nil
  | cons s calls ih =>
    have hlater := ih fun t ht => h t (List.mem_cons_of_mem s ht)
    obtain ⟨front, hread⟩ := h s List.mem_cons_self
    rcases hread.tells with ⟨hanswer, hevent⟩ | ⟨result, event, hanswer, hevent, htells⟩
    · have hnone : s.found? = none := by rw [found?, hanswer]; rfl
      rwa [List.filterMap_cons_none hnone, List.filterMap_cons_none hevent]
    · have hresult : s.found? = some result := by
        rw [found?, hanswer]
        cases result <;> rfl
      rw [List.filterMap_cons_some hresult, List.filterMap_cons_some hevent]
      exact .cons ⟨s, htells⟩ hlater

/-- A new scanner tells events of all its items, one by one. -/
theorem forall₂_rest (source : String) :
    List.Forall₂ (fun result event => ∃ s : Scanner, s.Tells source result event)
      (ofSource source).rest.answer (ofSource source).rest.events := by
  have hnew : (ofSource source).HasRead source [] := Cursor.hasRead_ofSource source
  have hresults := Request.results_eq (ofSource source) .rest
  have hevents := Request.events_eq (ofSource source) .rest
  rw [Request.results] at hresults
  rw [Request.events] at hevents
  rw [hresults, hevents]
  exact forall₂_tells fun s hs => hnew.itemCall hs

end Scanner

/-- The event traces a token of the same kind. -/
structure Event.Traces (token : Token) (event : Event) : Prop where
  /-- The event is about a single step. -/
  severity : event.severity = .trace
  /-- The event names the kind of the token. -/
  kind : ∃ word, token.IsNamed word ∧ ("kind", .text word) ∈ event.fields

/-- Events that tell of tokens trace these one by one. -/
theorem forall₂_traces {source : String} {tokens : List Token} {events : List Event}
    (h : List.Forall₂ (fun result event => ∃ s : Scanner, s.Tells source result event)
      (tokens.map .ok) events) :
    List.Forall₂ (fun token event => event.Traces token) tokens events := by
  refine (List.forall₂_map_left_iff.mp h).imp ?_
  rintro token event ⟨s, htells⟩
  cases htells with
  | token hfaces hseverity hword hfields => exact ⟨hseverity, _, hword, by simp [hfields]⟩

/-- Events that tell of tokens and then of an error trace the tokens and tell the error last. -/
theorem exists_traces {source : String} {tokens : List Token} {error : LexError}
    {events : List Event}
    (h : List.Forall₂ (fun result event => ∃ s : Scanner, s.Tells source result event)
      (tokens.map .ok ++ [.error error]) events) :
    ∃ traces last, events = traces ++ [last] ∧
      List.Forall₂ (fun token event => event.Traces token) tokens traces ∧
      last.severity = .debug ∧ last.fields = [("error", .text error.message)] := by
  induction tokens generalizing events with
  | nil =>
    obtain ⟨last, rest, ⟨s, htells⟩, hrest, rfl⟩ := List.forall₂_cons_left_iff.mp h
    cases hrest
    cases htells with
    | error hseverity hfields => exact ⟨[], last, rfl, .nil, hseverity, hfields⟩
  | cons token tokens ih =>
    obtain ⟨event, later, hevent, hlater, rfl⟩ := List.forall₂_cons_left_iff.mp h
    obtain ⟨traces, last, rfl, htraces, hlast⟩ := ih hlater
    have hfirst : List.Forall₂ (fun token event => event.Traces token) [token] [event] :=
      forall₂_traces (.cons hevent .nil)
    cases hfirst with
    | cons htoken hnil => exact ⟨event :: traces, last, rfl, .cons htoken htraces, hlast⟩

/-- The log of a new scanner of the source mirrors what a sequence of requests to it finds, call by
call for a token. -/
structure LogMirrors (source : String) (requests : List Scanner.Request) (calls : List Scanner) :
    Prop where
  /-- The requests return what the calls find, unless that is the end of the text. -/
  results : Scanner.throughout Scanner.Request.results (.ofSource source) requests =
    calls.filterMap Scanner.found?
  /-- The requests tell the events of these calls in the same order. -/
  events : Scanner.throughout Scanner.Request.events (.ofSource source) requests =
    calls.filterMap Scanner.event?
  /-- A call has an event exactly if it finds something, and the event tells of that. -/
  tells : ∀ s ∈ calls, (s.nextToken.answer = .ok none ∧ s.event? = none) ∨
    ∃ result event, s.nextToken.answer = result.map some ∧ s.event? = some event ∧
      s.Tells source result event
  /-- A request for items tells nothing once the scanner is marked. -/
  marked : ((Scanner.ofSource source).asked requests).failed = true →
    ∀ request : Scanner.Request, request.asksForItems = true →
      request.events ((Scanner.ofSource source).asked requests) = []
  /-- If all items of the source are tokens, these are traced and nothing else is told. -/
  accepted : ∀ tokens, tokenize source = .ok tokens →
    List.Forall₂ (fun token event => event.Traces token) tokens
      (Scanner.ofSource source).rest.events
  /-- If there is an error among the items, the tokens before it are traced, and it is told last. -/
  rejected : ∀ error, tokenize source = .error error →
    ∃ (tokens : List Token) (traces : List Event) (last : Event),
      (Scanner.ofSource source).rest.answer = tokens.map .ok ++ [.error error] ∧
      (Scanner.ofSource source).rest.events = traces ++ [last] ∧
      List.Forall₂ (fun token event => event.Traces token) tokens traces ∧
      last.severity = .debug ∧ last.fields = [("error", .text error.message)]

/-- However a scanner is asked, its log and what it returns come from the same calls for a token, in
their order: every call that finds a token or an error has one event, which tells of that and of
where the token starts, and nothing else is told. -/
theorem log_mirrors_calls (source : String) (requests : List Scanner.Request) :
    LogMirrors source requests
      (Scanner.throughout Scanner.Request.calls (.ofSource source) requests) := by
  have hnew : (Scanner.ofSource source).HasRead source [] := Cursor.hasRead_ofSource source
  have halike := sourceConsumedAlike source
  have hrest := Scanner.forall₂_rest source
  constructor
  case results => exact Scanner.throughout_eq_filterMap Scanner.Request.results_eq _ _
  case events => exact Scanner.throughout_eq_filterMap Scanner.Request.events_eq _ _
  case tells =>
    intro s hs
    obtain ⟨front, hread⟩ := hnew.call hs
    exact hread.tells
  case marked =>
    intro hfailed request hitems
    rw [request.events_eq, request.calls_of_failed hfailed hitems, List.filterMap_nil]
  case accepted =>
    intro tokens htokens
    rw [(halike.tokens tokens).mp htokens] at hrest
    exact forall₂_traces hrest
  case rejected =>
    intro error herror
    obtain ⟨tokens, hitems⟩ := (halike.error error).mp herror
    rw [hitems] at hrest
    obtain ⟨traces, last, hevents, htraces, hlast⟩ := exists_traces hrest
    exact ⟨tokens, traces, last, hitems, hevents, htraces, hlast⟩

end Lexis
