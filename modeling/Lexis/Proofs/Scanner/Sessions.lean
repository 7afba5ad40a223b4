import Mathlib.Data.List.Basic
import Lexis.Proofs.Scanner.Consumers

/-!
# Sessions with copies

In a session scanners of one source are asked in any order, and each may be copied as it stands.
Requests for items and requests for tokens move the same scanner, but only the former set the mark
that an error has been given out, and heed it. Once a request for items has met an error or the end
of the items, no item follows, neither from the scanner nor from a copy of it.
-/

namespace Lexis

namespace Scanner

/-- What a request for a token does depends on the cursor alone. -/
theorem nextToken_congr {s t : Scanner} (h : s.cursor = t.cursor) :
    s.nextToken.answer = t.nextToken.answer ∧
      s.nextToken.scanner.tokenStart = t.nextToken.scanner.tokenStart ∧
      s.nextToken.scanner.cursor = t.nextToken.scanner.cursor := by
  have hlocation : s.location = t.location := by rw [location, location, h]
  rcases s.isSpace_or_finds with hspace | ⟨gap, text, rest, result, hfinds⟩
  · rw [nextToken_of_isSpace hspace, nextToken_of_isSpace (s := t) (h ▸ hspace), h, hlocation]
    exact ⟨rfl, rfl, rfl⟩
  · have hfinds' : t.Finds gap text rest result :=
      ⟨h ▸ hfinds.ahead, hfinds.space, hlocation ▸ hfinds.reads⟩
    obtain ⟨gathered, hnext⟩ := hfinds.nextToken_eq
    obtain ⟨gathered', hnext'⟩ := hfinds'.nextToken_eq
    rw [hnext, hnext', landed, landed, h, hlocation]
    exact ⟨rfl, rfl, rfl⟩

/-- Where any number of requests for located tokens lead depends on the cursor alone. -/
theorem cursor_afterRequests_congr {s t : Scanner} (h : s.cursor = t.cursor) (n : ℕ) :
    (s.afterRequests n).cursor = (t.afterRequests n).cursor := by
  induction n generalizing s t with
  | zero => exact h
  | succ n ih => exact ih (nextToken_congr h).2.2

/-- The mark does not change where requests for located tokens lead. -/
theorem cursor_afterRequests_mark (s : Scanner) (mark : Bool) (n : ℕ) :
    (afterRequests n { s with failed := mark }).cursor = (s.afterRequests n).cursor :=
  cursor_afterRequests_congr (s := { s with failed := mark }) (t := s) rfl n

/-- Without the mark, the next item is what a request for a token finds. -/
theorem next_eq_some_iff {s : Scanner} (hfailed : s.failed = false)
    (item : Except LexError Token) :
    s.next.answer = some item ↔ s.nextToken.answer = item.map some := by
  cases hanswer : s.nextToken.answer with
  | error error =>
    rw [next_of_error hfailed hanswer]
    cases item <;> simp [Except.map]
  | ok token? =>
    cases token? with
    | none =>
      rw [next_of_end hfailed hanswer]
      cases item <;> simp [Except.map]
    | some token =>
      rw [next_of_token hfailed hanswer]
      cases item <;> simp [Except.map]

namespace Request

/-- Says whether a request asks for items. -/
def asksForItems : Request → Bool
  | .token | .located => false
  | .item | .nth _ | .rest | .collect => true

end Request

/-- Says whether there is an error among the next `n` items, or fewer items than that. -/
def endsWithin (n : ℕ) (s : Scanner) : Bool :=
  (s.rest.answer.take n).any (!·.isOk) || s.rest.answer.length < n

/-- Says whether a request meets an error among the items, which it may give out, skip or collect,
or finds that there are no more items. A request for all of them always does. -/
def Request.spends (s : Scanner) : Request → Bool
  | .token | .located => false
  | .item => s.endsWithin 1
  | .nth n => s.endsWithin (n + 1)
  | .rest | .collect => true

/-- No item is left behind an error or behind the last item. -/
theorem length_rest_le_of_endsWithin {s : Scanner} {n : ℕ} (h : s.endsWithin n = true) :
    s.rest.answer.length ≤ n := by
  rw [endsWithin, Bool.or_eq_true, List.any_eq_true, decide_eq_true_eq] at h
  rcases h with ⟨item, hitem, herror⟩ | hshort
  · rcases s.tryCollect_cases with ⟨tokens, _, hrest⟩ | ⟨tokens, error, _, hrest⟩
    · rw [hrest] at hitem
      obtain ⟨token, _, rfl⟩ := List.mem_map.mp (List.mem_of_mem_take hitem)
      simp [Except.isOk, Except.toBool] at herror
    · rw [hrest] at hitem ⊢
      -- Were the error beyond the first `n` items, these would all be tokens.
      by_contra hlong
      have hle : n ≤ (tokens.map (Except.ok (ε := LexError))).length := by simp at hlong ⊢; omega
      rw [List.take_append_of_le_length hle] at hitem
      obtain ⟨token, _, rfl⟩ := List.mem_map.mp (List.mem_of_mem_take hitem)
      simp [Except.isOk, Except.toBool] at herror
  · omega

/-- Where there is no item, every request for items does what a request for one does. -/
theorem Request.apply_of_none {s : Scanner} (h : s.next.answer = none) {r : Request}
    (hitems : r.asksForItems = true) : r.apply s = s.next.scanner := by
  cases r with
  | token => cases hitems
  | located => cases hitems
  | item => rfl
  | nth n => exact (s.nth_eq n).2.trans (afterItems_of_none h n)
  | rest => rw [apply, rest_eq_of_none h]
  | collect => rw [apply, tryCollect_eq_of_none h]

/-- Where there is no item, there is none after a request for a token. -/
theorem next_nextToken_of_none {s : Scanner} (h : s.next.answer = none) :
    s.nextToken.scanner.next.answer = none := by
  by_cases hfailed : s.failed = true
  · rw [next_of_failed (s.failed_nextToken.trans hfailed)]
  · have hunmarked : s.failed = false := by simpa using hfailed
    have hend : s.nextToken.answer = .ok none := by
      cases hanswer : s.nextToken.answer with
      | error error => simp [next_of_error hunmarked hanswer] at h
      | ok token? =>
        cases token? with
        | none => rfl
        | some token => simp [next_of_token hunmarked hanswer] at h
    rw [next_of_end (s.failed_nextToken.trans hunmarked) (by rw [nextToken_again hend])]

/-- Where there is no item, there is none after any request. -/
theorem Request.next_apply_of_none {s : Scanner} (h : s.next.answer = none) (r : Request) :
    (r.apply s).next.answer = none := by
  cases r with
  | token => exact next_nextToken_of_none h
  | located => exact next_nextToken_of_none h
  | item | nth n | rest | collect =>
    rw [apply_of_none h rfl]
    exact (next_again h).1

/-- After all items have been given out there is no next one. -/
theorem next_rest (s : Scanner) : s.rest.scanner.next.answer = none := by
  rw [scanner_rest, next_afterItems]
  exact List.getElem?_eq_none (Nat.le_succ _)

/-- After the tokens have been collected there is no next item. -/
theorem next_tryCollect (s : Scanner) : s.tryCollect.scanner.next.answer = none := by
  rw [scanner_tryCollect, next_afterItems]
  exact List.getElem?_eq_none (Nat.le_succ _)

/-- A request that meets an error or the end of the items leaves no next item. -/
theorem Request.next_apply_of_spends {s : Scanner} {r : Request} (h : r.spends s = true) :
    (r.apply s).next.answer = none := by
  have hnth : ∀ n, s.endsWithin (n + 1) = true → (s.nth n).scanner.next.answer = none := by
    intro n hends
    rw [(s.nth_eq n).2, next_afterItems]
    exact List.getElem?_eq_none (length_rest_le_of_endsWithin hends)
  cases r with
  | token => cases h
  | located => cases h
  | item => exact hnth 0 h
  | nth n => exact hnth n h
  | rest => exact s.next_rest
  | collect => exact s.next_tryCollect

/-- The items of the scanner are spent: no request for items yields any. -/
structure Spent (s : Scanner) : Prop where
  /-- There is no next item. -/
  next : s.next.answer = none
  /-- There is no item behind any number of others. -/
  nth : ∀ n, (s.nth n).answer = none
  /-- No items remain. -/
  rest : s.rest.answer = []
  /-- No token is collected, and no error is met. -/
  collect : s.tryCollect.answer = .ok []

/-- Where there is no next item, the items of the scanner are spent. -/
theorem spent_of_none {s : Scanner} (h : s.next.answer = none) : s.Spent where
  next := h
  nth := fun n => by rw [(s.nth_eq n).1, rest_of_none h, List.getElem?_nil]
  rest := rest_of_none h
  collect := by rw [tryCollect_eq, h]

end Scanner

/-- A scanner in a session. -/
structure Member where
  /-- The scanner. -/
  scanner : Scanner
  /-- Set once a request for items to it has met an error or the end of the items, be it before it
  was copied from the scanner that was asked. -/
  spent : Bool := false

/-- The member after a request to its scanner. -/
def Member.ask (m : Member) (request : Scanner.Request) : Member where
  scanner := request.apply m.scanner
  spent := m.spent || request.spends m.scanner

/-- What is done in a session, whose scanners are numbered in the order in which they came up. -/
inductive Call where
  /-- Makes a request to a scanner. -/
  | ask (index : ℕ) (request : Scanner.Request)
  /-- Adds a copy of a scanner as it stands. -/
  | clone (index : ℕ)

/-- The members of a session after a call. -/
def Call.apply (members : List Member) : Call → List Member
  | .ask index request => members.modify index (·.ask request)
  | .clone index => members ++ members[index]?.toList

/-- The members of a session that begins with a new scanner of the source. -/
def session (source : String) (calls : List Call) : List Member :=
  calls.foldl Call.apply [{ scanner := .ofSource source }]

/-- What holds of a new scanner and is kept by all requests holds of all members of a session. -/
theorem session_induction {P : Member → Prop} {source : String} {calls : List Call}
    (hnew : P { scanner := .ofSource source }) (hask : ∀ m r, P m → P (m.ask r)) :
    ∀ m ∈ session source calls, P m := by
  suffices hcalls : ∀ members : List Member, (∀ m ∈ members, P m) →
      ∀ m ∈ calls.foldl Call.apply members, P m by
    exact hcalls _ (by simpa using hnew)
  induction calls with
  | nil => exact fun members hmembers => hmembers
  | cons call calls ih =>
    intro members hmembers
    refine ih _ fun m hm => ?_
    cases call with
    | ask index request =>
      obtain ⟨i, hi⟩ := List.getElem?_of_mem hm
      rw [Call.apply, List.getElem?_modify] at hi
      obtain ⟨old, hold, hm⟩ := Option.map_eq_some_iff.mp hi
      have hkept := hmembers old (List.mem_of_getElem? hold)
      split at hm
      · exact hm ▸ hask old request hkept
      · exact hm ▸ hkept
    | clone index =>
      rcases List.mem_append.mp hm with hold | hcopy
      · exact hmembers m hold
      · exact hmembers m (List.mem_of_getElem? (Option.mem_toList.mp hcopy))

/-- A member of which it has been said that its items are spent has no next item. -/
theorem next_of_spent {source : String} {calls : List Call} {m : Member}
    (hm : m ∈ session source calls) (hspent : m.spent = true) : m.scanner.next.answer = none := by
  revert hspent
  refine session_induction (P := fun m => m.spent = true → m.scanner.next.answer = none)
    nofun (fun m r hkept hspent => ?_) m hm
  rcases (Bool.or_eq_true _ _).mp hspent with hbefore | hnow
  · exact r.next_apply_of_none (hkept hbefore)
  · exact Scanner.Request.next_apply_of_spends hnow

namespace Scanner

/-- The mark that an error has been given out as an item concerns requests for items alone. -/
structure MarkApart (s : Scanner) : Prop where
  /-- A request for items to a marked scanner changes nothing about it. -/
  still : s.failed = true → ∀ r : Request, r.asksForItems = true → r.apply s = s
  /-- A request for a token leaves the mark as it is. -/
  token : s.nextToken.scanner.failed = s.failed
  /-- A request for a located token leaves the mark as it is. -/
  located : s.nextLocated.scanner.failed = s.failed
  /-- With or without the mark, any number of requests for tokens are answered in the same way. -/
  answers : ∀ (mark : Bool) (n : ℕ),
    (afterRequests n { s with failed := mark }).nextToken.answer =
        (s.afterRequests n).nextToken.answer ∧
      (afterRequests n { s with failed := mark }).nextLocated.answer =
        (s.afterRequests n).nextLocated.answer
  /-- With or without the mark, requests for tokens lead to the same places. -/
  places : ∀ (mark : Bool) (n : ℕ),
    (afterRequests n { s with failed := mark }).nextToken.scanner.tokenStart =
        (s.afterRequests n).nextToken.scanner.tokenStart ∧
      (afterRequests n { s with failed := mark }).nextToken.scanner.location =
        (s.afterRequests n).nextToken.scanner.location
  /-- Behind an error that a request for a token has met, the next item of an unmarked scanner is
  what another such request finds. -/
  reopens : s.failed = false → ∀ error, s.nextToken.answer = .error error →
    ∀ item, s.nextToken.scanner.next.answer = some item ↔
      s.nextToken.scanner.nextToken.answer = item.map some

/-- In every state of a scanner the mark concerns requests for items alone. -/
theorem markApart (s : Scanner) : s.MarkApart where
  still := by
    intro hfailed r hitems
    have hnext := next_of_failed hfailed
    rw [r.apply_of_none (by rw [hnext]) hitems, hnext]
  token := s.failed_nextToken
  located := s.failed_nextToken
  answers := by
    intro mark n
    obtain ⟨hanswer, hstart, _⟩ := nextToken_congr (s.cursor_afterRequests_mark mark n)
    exact ⟨hanswer, by rw [nextLocated_answer, nextLocated_answer, hanswer, hstart]⟩
  places := by
    intro mark n
    obtain ⟨_, hstart, hbehind⟩ := nextToken_congr (s.cursor_afterRequests_mark mark n)
    exact ⟨hstart, congrArg Cursor.location hbehind⟩
  reopens := by
    intro hfailed _ _ item
    exact next_eq_some_iff (s.failed_nextToken.trans hfailed) item

end Scanner

/-- Whatever is asked in a session, and whichever scanners are copied in it: once a request for
items has met an error or the end of the items, no later request to the scanner or to a copy made
since then yields an item. The mark for errors is set and heeded by requests for items alone. -/
theorem session_isFused (source : String) (calls : List Call) :
    ∀ m ∈ session source calls, (m.spent = true → m.scanner.Spent) ∧ m.scanner.MarkApart := by
  intro m hm
  exact ⟨fun hspent => Scanner.spent_of_none (next_of_spent hm hspent), m.scanner.markApart⟩

/-- An error that a request for a located token has met stops no items. One that is skipped among
the items does, for copies made later too; a copy made before goes on. -/
theorem session_isFused_skipped :
    ∃ calls : List Call,
      (∃ m ∈ session "a .5 b .6 c d" calls, m.scanner.next.answer = some (.ok (.name "b"))) ∧
      ∃ m ∈ session "a .5 b .6 c d" calls, m.spent = true ∧
        m.scanner.nextToken.answer = .ok (some (.name "d")) ∧
        m.scanner.Spent ∧ m.scanner.MarkApart := by
  let calls : List Call :=
    [.ask 0 .token, .ask 0 .located, .clone 0, .ask 0 (.nth 1), .clone 0, .ask 2 .located]
  have hbefore : (session "a .5 b .6 c d" calls)[1]?.map (·.scanner.next.answer) =
      some (some (.ok (.name "b"))) := by decide +kernel
  have hlater : (session "a .5 b .6 c d" calls)[2]?.map
      (fun m => (m.spent, m.scanner.nextToken.answer)) =
        some (true, .ok (some (.name "d"))) := by decide +kernel
  obtain ⟨first, hfirst, hitem⟩ := Option.map_eq_some_iff.mp hbefore
  obtain ⟨copy, hcopy, hboth⟩ := Option.map_eq_some_iff.mp hlater
  obtain ⟨hspent, htoken⟩ := Prod.mk.inj hboth
  have hmem := List.mem_of_getElem? hcopy
  obtain ⟨hfused, hmark⟩ := session_isFused "a .5 b .6 c d" calls copy hmem
  exact ⟨calls, ⟨first, List.mem_of_getElem? hfirst, hitem⟩,
    copy, hmem, hspent, htoken, hfused hspent, hmark⟩

end Lexis
