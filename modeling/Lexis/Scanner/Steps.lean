import Lexis.Scanner.Progress

/-!
# The steps of a scan

A step is one request for a located token with the stretch of text it covers. A scan may carry on
after an error, since the scanner then stands behind the text that could not be read.
-/

namespace Lexis

/-- One request for a token, with the places where the token starts and where the scanner stands
afterwards. -/
structure Step where
  /-- Where the token, the error or the end of the text was found. -/
  start : Location
  /-- Where the scanner stands afterwards. -/
  stop : Location
  /-- What was found: a token, an error, or nothing at the end of the text. -/
  outcome : Except LexError (Option Token)

/-- The step that a reply to a request for a token makes. -/
def Reply.step (r : Reply (Except LexError (Option Token))) : Step where
  start := r.scanner.tokenStart
  stop := r.scanner.location
  outcome := r.answer

namespace Scanner

/-- All steps up to the end of the text, carrying on after errors. The last step is the only one
that finds nothing. -/
def steps (s : Scanner) : List Step :=
  let r := s.nextToken
  match _h : r.answer with
  | .ok none => [r.step]
  | .ok (some _) => r.step :: r.scanner.steps
  | .error _ => r.step :: r.scanner.steps
termination_by s.left
decreasing_by all_goals exact left_nextToken_lt (by rw [_h]; simp)

/-- All located tokens up to the end of the text, or the first error. -/
def located (s : Scanner) : Reply (Except LexError (List (Location × Token))) :=
  let r := s.nextLocated
  match _h : r.answer with
  | .ok none => { answer := .ok [], events := r.events, scanner := r.scanner }
  | .error error => { answer := .error error, events := r.events, scanner := r.scanner }
  | .ok (some place) =>
    let later := r.scanner.located
    { answer := later.answer.map (place :: ·)
      events := r.events ++ later.events
      scanner := later.scanner }
termination_by s.left
decreasing_by
  refine left_nextToken_lt ?_
  intro hend
  simp [r, nextLocated, hend, Except.map] at _h

end Scanner

/-- The steps of a scan that stops at its first error. -/
def Step.upToError : List Step → List Step
  | [] => []
  | step :: later =>
    match step.outcome with
    | .error _ => [step]
    | .ok _ => step :: upToError later

end Lexis
