import Lexis.Proofs.Scanner.Events
import Lexis.Proofs.Scanner.Starts

/-!
# What a scanner keeps from earlier requests does not matter

A scanner keeps the text that was gathered last, the place where the latest token starts, and the
mark for errors. A request for a token overwrites the first two before it reads them and never looks
at the third. So these may hold anything: two scanners that stand at one location of a source answer
alike, now and later, and whatever they find is made of the text that they take.
-/

namespace Lexis

/-- What can be seen of two replies is the same: the answers, the events, and where the scanners
stand and where their latest tokens start afterwards. -/
structure Reply.Alike {α : Type} (r r' : Reply α) : Prop where
  /-- The answers are equal. -/
  answer : r.answer = r'.answer
  /-- The events are the same. -/
  events : r.events = r'.events
  /-- The scanners stand at the same location. -/
  location : r.scanner.location = r'.scanner.location
  /-- The latest tokens start at the same place. -/
  tokenStart : r.scanner.tokenStart = r'.scanner.tokenStart

/-- The characters of the source that a token holds. A number holds none, only their value. -/
def Token.characters : Token → List Char
  | .string text => text.toList
  | .name text => text.toList
  | .symbol char => [char]
  | .number _ => []

/-- The characters of the source that an error holds. -/
def LexError.characters : LexError → List Char
  | .invalidToken text _ => text.toList
  | .unterminatedString _ => []
  | .prematureEnd _ => []

/-- The characters of the source that a token or an error holds. -/
def foundCharacters : Except LexError Token → List Char
  | .ok token => token.characters
  | .error error => error.characters

/-- A token holds characters of the text that spells it. -/
theorem Spells.characters_infix {text : List Char} {token : Token} (h : Spells text token) :
    token.characters <:+: text := by
  cases h with
  | @string body hbody =>
    rw [Token.characters, String.toList_ofList]
    exact ⟨[Text.quoteMark], [Text.quoteMark], rfl⟩
  | number hne hdigits hvalue => exact List.nil_infix
  | name hfirst hrun => exact ⟨[], [], by simp [Token.characters]⟩
  | @symbol first run hfirst hquote hrun => exact ⟨[], run, rfl⟩

/-- Whatever is read holds characters of the text that is taken. -/
theorem Reads.characters_infix {start : Location} {text rest : List Char}
    {result : Except LexError Token} (h : Reads start text rest result) :
    foundCharacters result <:+: text := by
  cases h with
  | token hspells hends => exact hspells.characters_infix
  | unterminated hbody => exact List.nil_infix
  | misfit hfirst hrun => exact ⟨[], [], by simp [foundCharacters, LexError.characters]⟩

namespace Scanner

/-- A request to the scanner takes the text for its answer from the source, at the place where the
scanner stands. -/
structure TakesFresh (source : String) (s : Scanner) : Prop where
  /-- The step starts no earlier than the place where the scanner stands. -/
  start : s.location.offset ≤ s.nextToken.scanner.tokenStart.offset
  /-- Whatever is found is read from the text between the place where the step starts and the place
  where it ends, and holds characters of this text only. -/
  reading : ∀ result : Except LexError Token, s.nextToken.answer = result.map some →
    ∃ text rest,
      Text.IsSlice source s.nextToken.scanner.tokenStart.offset
        s.nextToken.scanner.location.offset text ∧
      Reads s.nextToken.scanner.tokenStart text rest result ∧ foundCharacters result <:+: text
  /-- Whatever is asked later is answered with text behind the place where the step ends. -/
  later : ∀ requests, s.nextToken.scanner.location.offset ≤
    (s.nextToken.scanner.asked requests).location.offset

section

variable {source : String} {s t : Scanner}

/-- A scanner that stands in a source does so after any sequence of requests. -/
theorem standsIn_asked (h : s.cursor.StandsIn source) (requests : List Request) :
    (s.asked requests).cursor.StandsIn source := by
  refine asked_keeps (P := fun t => t.cursor.StandsIn source) ?_ ?_ requests h
  · intro t ht
    obtain ⟨n, hadvance⟩ := t.exists_advance_nextToken
    rw [hadvance]
    exact ht.advance n
  · exact fun t ht => ht

/-- Wherever a scanner stands in a source, it takes the text for its answer there. -/
theorem takesFresh (h : s.cursor.StandsIn source) : s.TakesFresh source := by
  obtain ⟨front, hsource, hsize⟩ := h.ahead
  refine ⟨s.offset_le_tokenStart, ?_, s.nextToken.scanner.offset_le_asked⟩
  intro result hanswer
  obtain ⟨gap, text, rest, hfinds⟩ := exists_finds_of_answer hanswer
  refine ⟨text, rest, ⟨front ++ gap, rest, ?_, ?_, ?_⟩, ?_, hfinds.reads.characters_infix⟩
  · simp [hsource, hfinds.ahead]
  · rw [hfinds.tokenStart_eq, Location.offset_after, Text.byteSize_append, hsize, location]
  · rw [hfinds.location_nextToken, Location.offset_after, Location.offset_after,
      Text.byteSize_append, Text.byteSize_append, hsize, location]
  · rw [hfinds.tokenStart_eq]
    exact hfinds.reads

/-- Requests that see only the cursor move scanners with one cursor alike. -/
theorem cursor_asked_congr (h : s.cursor = t.cursor) {requests : List Request}
    (hrequests : ∀ r ∈ requests, r.asksForItems = false) :
    (s.asked requests).cursor = (t.asked requests).cursor := by
  induction requests generalizing s t with
  | nil => exact h
  | cons request requests ih =>
    refine ih ?_ fun r hr => hrequests r (List.mem_cons_of_mem _ hr)
    have hitems := hrequests request List.mem_cons_self
    cases request with
    | token => exact (nextToken_congr h).2.2
    | located => exact (nextToken_congr h).2.2
    | item | nth n | rest | collect => cases hitems

/-- What can be seen of a request for a located token depends on the cursor alone. -/
theorem alike_nextLocated (h : s.cursor = t.cursor) : s.nextLocated.Alike t.nextLocated := by
  obtain ⟨hanswer, hstart, hcursor⟩ := nextToken_congr h
  have hlocated : s.nextLocated.answer = t.nextLocated.answer := by
    rw [nextLocated_answer, nextLocated_answer, hanswer, hstart]
  refine ⟨hlocated, ?_, congrArg Cursor.location hcursor, hstart⟩
  have hevents := s.events_nextToken
  rw [event?, hlocated] at hevents
  exact hevents.trans t.events_nextToken.symm

/-- What can be seen of a request for a token depends on the cursor alone. -/
theorem alike_nextToken (h : s.cursor = t.cursor) : s.nextToken.Alike t.nextToken where
  answer := (nextToken_congr h).1
  events := (alike_nextLocated h).events
  location := (alike_nextLocated h).location
  tokenStart := (alike_nextLocated h).tokenStart

end

/-- Two scanners of a source answer alike whatever they keep from before, and none of it is in what
they answer. -/
structure IgnoresResidue (source : String) (s t : Scanner) : Prop where
  /-- After any requests for tokens, the next request for a token gives the same. -/
  token : ∀ requests, (∀ r ∈ requests, Request.asksForItems r = false) →
    (s.asked requests).nextToken.Alike (t.asked requests).nextToken
  /-- After any requests for tokens, the next request for a located token gives the same. -/
  located : ∀ requests, (∀ r ∈ requests, Request.asksForItems r = false) →
    (s.asked requests).nextLocated.Alike (t.asked requests).nextLocated
  /-- After any requests whatsoever, the next token or error is made of text that lies behind all
  text that was taken before. -/
  fresh : ∀ requests, (s.asked requests).TakesFresh source

end Scanner

/-- Two scanners that stand at one location of a source cannot be told apart by requests for tokens,
whatever text they have gathered, wherever their latest tokens start, and whether or not they are
marked. Nothing of what they have gathered before is in a later token or error. -/
theorem residue_does_not_matter {source : String} {s t : Scanner}
    (hs : s.cursor.StandsIn source) (ht : t.cursor.StandsIn source)
    (hlocation : s.location = t.location) : s.IgnoresResidue source t := by
  have hcursor : s.cursor = t.cursor := hs.eq_of_location_eq ht hlocation
  constructor
  case token =>
    intro requests hrequests
    exact Scanner.alike_nextToken (Scanner.cursor_asked_congr hcursor hrequests)
  case located =>
    intro requests hrequests
    exact Scanner.alike_nextLocated (Scanner.cursor_asked_congr hcursor hrequests)
  case fresh =>
    intro requests
    exact Scanner.takesFresh (Scanner.standsIn_asked hs requests)

/-- One scanner has just met a misfit run and given it out as an item. The other stands at the same
place, has gathered a text that is not in the source, and has no mark. -/
theorem residue_does_not_matter_behind_error :
    (((Scanner.ofSource ".5 \"b").asked [.item]).lexeme = ".5" ∧
      ((Scanner.ofSource ".5 \"b").asked [.item]).failed = true) ∧
    ((Scanner.ofSource ".5 \"b").asked [.item]).IgnoresResidue ".5 \"b"
      { cursor := { source := ".5 \"b", ahead := [' ', '"', 'b'], location := ⟨2, 1, 3⟩ }
        lexeme := "never read"
        tokenStart := ⟨7, 3, 9⟩ } := by
  have hnew : (Scanner.ofSource ".5 \"b").cursor.StandsIn ".5 \"b" :=
    (Cursor.hasRead_ofSource _).standsIn
  refine ⟨by decide +kernel, residue_does_not_matter (Scanner.standsIn_asked hnew [.item]) ?_ ?_⟩
  · exact ⟨rfl, ['.', '5'], by decide, by decide⟩
  · decide +kernel

end Lexis
