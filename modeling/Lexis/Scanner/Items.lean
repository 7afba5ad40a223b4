import Lexis.Scanner.Progress

/-!
# The items of a scanner

Asked for one item after the other, a scanner gives out tokens until the text ends or an error
has been given out. This module holds the requests that ask for several items at once.
-/

namespace Lexis

namespace Scanner

/-- Skips `n` items and gives the one after them. Errors count as items; once there are no more,
nothing further is asked. -/
def nth : Nat → Scanner → Reply (Option (Except LexError Token))
  | 0, s => s.next
  | n + 1, s =>
    let r := s.next
    match r.answer with
    | none => r
    | some _ =>
      let later := nth n r.scanner
      { later with events := r.events ++ later.events }

/-- All remaining items. -/
def rest (s : Scanner) : Reply (List (Except LexError Token)) :=
  let r := s.next
  match _h : r.answer with
  | none => { answer := [], events := r.events, scanner := r.scanner }
  | some item =>
    let later := r.scanner.rest
    { answer := item :: later.answer
      events := r.events ++ later.events
      scanner := later.scanner }
termination_by s.budget
decreasing_by exact budget_next_lt _h

/-- All remaining tokens, or the first error among the items; the items behind an error are not
asked for. -/
def tryCollect (s : Scanner) : Reply (Except LexError (List Token)) :=
  let r := s.next
  match _h : r.answer with
  | none => { answer := .ok [], events := r.events, scanner := r.scanner }
  | some (.error error) => { answer := .error error, events := r.events, scanner := r.scanner }
  | some (.ok token) =>
    let later := r.scanner.tryCollect
    { answer := later.answer.map (token :: ·)
      events := r.events ++ later.events
      scanner := later.scanner }
termination_by s.budget
decreasing_by exact budget_next_lt _h

/-- Counts the remaining tokens, on from `counted`, up to the first error. -/
def countFrom (counted : Nat) (s : Scanner) : Reply (Except LexError Nat) :=
  let r := s.next
  match _h : r.answer with
  | none => { answer := .ok counted, events := r.events, scanner := r.scanner }
  | some (.error error) => { answer := .error error, events := r.events, scanner := r.scanner }
  | some (.ok _) =>
    let later := r.scanner.countFrom (counted + 1)
    { later with events := r.events ++ later.events }
termination_by s.budget
decreasing_by exact budget_next_lt _h

end Scanner

/-- The tokens of a source text, or the first error in it. -/
def tokenize (source : String) : Except LexError (List Token) :=
  (Scanner.ofSource source).tryCollect.answer

end Lexis
