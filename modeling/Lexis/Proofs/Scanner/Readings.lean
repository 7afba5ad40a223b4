import Lexis.Proofs.Number.IntegerRounding
import Lexis.Proofs.Text.CharacterClasses
import Lexis.Proofs.Text.Runs
import Lexis.Scanner.Progress

/-!
# One reading of a scanner

`Spells` says without a scanner which texts spell which tokens, and `Reads` says what can be
read at the start of a text: a token where its text must end, or one of two errors. What a scanner
finds is such a reading behind the white space ahead, unless there is nothing else ahead. It is
determined, and a request for a token answers with it and stops behind it.
-/

namespace Lexis

/-- `Spells text token`: the text is one way to write the token. -/
inductive Spells : List Char → Token → Prop
  /-- A string stands between quotation marks and holds none. -/
  | string {body : List Char} (hbody : Text.quoteMark ∉ body) :
      Spells (Text.quoteMark :: (body ++ [Text.quoteMark])) (.string (String.ofList body))
  /-- A number is a run of digits, and its value is what their integer is rounded to. -/
  | number {digits : List Char} {value : Binary64} (hne : digits ≠ [])
      (hdigits : ∀ c ∈ digits, Text.isDigit c = true)
      (hvalue : value.RoundedFrom (Nat.ofDigitChars 10 digits 0)) :
      Spells digits (.number value)
  /-- A name is a run without white space that begins with an alphabetic character. -/
  | name {first : Char} {run : List Char} (hfirst : Text.isNameStart first = true)
      (hrun : ∀ c ∈ first :: run, Text.isBare c = true) :
      Spells (first :: run) (.name (String.ofList (first :: run)))
  /-- A symbol is the first character of such a run that begins with punctuation. -/
  | symbol {first : Char} {run : List Char} (hfirst : Text.isSymbolStart first = true)
      (hquote : first ≠ Text.quoteMark) (hrun : ∀ c ∈ first :: run, Text.isBare c = true) :
      Spells (first :: run) (.symbol first)

/-- A token may end where it cannot be extended: a string anywhere, a number before anything but
a digit, a bare run before white space or at the end of the text. -/
def Token.EndsBefore (token : Token) (rest : List Char) : Prop :=
  match token.kind with
  | .string => True
  | .number => ∀ c ∈ rest.head?, Text.isDigit c = false
  | .name | .symbol => ∀ c ∈ rest.head?, Text.isBare c = false

/-- `Reads start text rest result`: at the start of `text ++ rest`, which lies behind `start`, a
reader takes `text` and reports `result`. -/
inductive Reads (start : Location) : List Char → List Char → Except LexError Token → Prop
  /-- A token is read where its text ends. -/
  | token {text rest : List Char} {token : Token} (hspells : Spells text token)
      (hends : token.EndsBefore rest) : Reads start text rest (.ok token)
  /-- A string that is never closed takes all that is left. -/
  | unterminated {body : List Char} (hbody : Text.quoteMark ∉ body) :
      Reads start (Text.quoteMark :: body) [] (.error (.unterminatedString start))
  /-- A bare run that begins with a misfit is rejected as a whole. -/
  | misfit {first : Char} {run rest : List Char} (hfirst : Text.Misfit first)
      (hrun : Text.IsRun Text.isBare (first :: run) rest) :
      Reads start (first :: run) rest
        (.error (.invalidToken (String.ofList (first :: run)) start))

/-- The text of a token begins with a character that is not white space. -/
theorem Spells.exists_cons {text : List Char} {token : Token} (h : Spells text token) :
    ∃ first run, text = first :: run ∧ Text.isWhiteSpace first = false := by
  cases h with
  | string hbody => exact ⟨_, _, rfl, Text.isWhiteSpace_quoteMark⟩
  | number hne hdigits hvalue =>
    obtain ⟨first, run, rfl⟩ := List.exists_cons_of_ne_nil hne
    exact ⟨_, _, rfl, Text.isWhiteSpace_of_isDigit (hdigits first (by simp))⟩
  | name hfirst hrun => exact ⟨_, _, rfl, by simpa [Text.isBare] using hrun _ (by simp)⟩
  | symbol hfirst hquote hrun =>
    exact ⟨_, _, rfl, by simpa [Text.isBare] using hrun _ (by simp)⟩

/-- What is read begins with a character that is not white space. -/
theorem Reads.exists_cons {start : Location} {text rest : List Char}
    {result : Except LexError Token} (h : Reads start text rest result) :
    ∃ first run, text = first :: run ∧ Text.isWhiteSpace first = false := by
  cases h with
  | token hspells hends => exact hspells.exists_cons
  | unterminated hbody => exact ⟨_, _, rfl, Text.isWhiteSpace_quoteMark⟩
  | misfit hfirst hrun =>
    exact ⟨_, _, rfl, by simpa [Text.isBare] using hrun.inside _ (by simp)⟩

/-- Errors that can be read lie where reading starts. -/
theorem Reads.error_location {start : Location} {text rest : List Char} {error : LexError}
    (h : Reads start text rest (.error error)) : error.location = start := by
  cases h <;> rfl

/-- What can be read of a string that is never closed leaves nothing behind. -/
theorem Reads.rest_of_unterminated {start l : Location} {text rest : List Char}
    (h : Reads start text rest (.error (.unterminatedString l))) : rest = [] := by
  cases h
  rfl

/-- Every text that does not begin with white space has a reading at its start. -/
theorem exists_reads (start : Location) {first : Char} (behind : List Char)
    (hfirst : Text.isWhiteSpace first = false) :
    ∃ text rest result, first :: behind = text ++ rest ∧ Reads start text rest result := by
  by_cases hquote : first = Text.quoteMark
  · subst hquote
    by_cases hclosed : Text.quoteMark ∈ behind
    · obtain ⟨body, rest, rfl, hbody⟩ := List.eq_append_cons_of_mem hclosed
      exact ⟨_, rest, _, by simp, .token (.string hbody) trivial⟩
    · exact ⟨_, [], _, by simp, .unterminated hclosed⟩
  · by_cases hdigit : Text.isDigit first = true
    · have hrun := Text.isRun_takeWhile Text.isDigit (first :: behind)
      have hne : (first :: behind).takeWhile Text.isDigit ≠ [] := by simp [hdigit]
      exact ⟨_, _, _, List.takeWhile_append_dropWhile.symm,
        .token (.number hne hrun.inside (Binary64.roundedFrom_ofNat _)) hrun.stops⟩
    · have hrun := Text.isRun_takeWhile Text.isBare (first :: behind)
      have hbare : Text.isBare first = true := by simp [Text.isBare, hfirst]
      have htext := List.takeWhile_append_dropWhile (p := Text.isBare) (l := first :: behind)
      rw [List.takeWhile_cons_of_pos hbare] at hrun htext
      by_cases hname : Text.isNameStart first = true
      · exact ⟨_, _, _, htext.symm, .token (.name hname hrun.inside) hrun.stops⟩
      · by_cases hsymbol : Text.isSymbolStart first = true
        · exact ⟨_, _, _, htext.symm,
            .token (.symbol hsymbol hquote hrun.inside) hrun.stops⟩
        · have hmisfit : Text.Misfit first :=
            (Text.misfit_iff (by simpa using hdigit)).mpr
              ⟨by simpa using hname, by simpa using hsymbol⟩
          exact ⟨_, _, _, htext.symm, .misfit hmisfit hrun⟩

namespace Scanner

/-- Characters that open neither a string nor a number begin a bare run. -/
theorem readToken_of_bare {s : Scanner} {first : Char} {run rest : List Char}
    (hahead : s.cursor.ahead = first :: run ++ rest) (hquote : first ≠ Text.quoteMark)
    (hdigit : Text.isDigit first = false) (hrun : Text.IsRun Text.isBare (first :: run) rest) :
    s.readToken first =
      (classifyRun first (String.ofList (first :: run)) s.tokenStart,
        s.take (run.length + 1) (first :: run)) := by
  have hspace : Text.isWhiteSpace first = false := by
    simpa [Text.isBare] using hrun.inside first (by simp)
  have htake : s.cursor.ahead.takeWhile Text.isBare = first :: run := by
    rw [hahead, hrun.takeWhile_eq]
  rw [readToken, if_neg hquote, if_neg (by simp [hdigit]), readBare_of_cons hahead hspace, htake]
  rfl

/-- The reader that is chosen by the first character of a token reads the token. -/
theorem readToken_of_spells {s : Scanner} {first : Char} {run rest : List Char} {token : Token}
    (hahead : s.cursor.ahead = first :: run ++ rest) (hspells : Spells (first :: run) token)
    (hends : token.EndsBefore rest) :
    ∃ gathered, s.readToken first = (.ok token, s.take (run.length + 1) gathered) := by
  generalize htext : first :: run = text at hahead hspells
  cases hspells with
  | @string body hbody =>
    obtain ⟨rfl, rfl⟩ := List.cons.inj htext
    refine ⟨body, ?_⟩
    rw [readToken, if_pos rfl, readString_of_closed (by simpa using hahead) hbody]
    simp
  | number hne hdigits hvalue =>
    subst htext
    obtain rfl := hvalue.eq_ofNat
    have hdigit := hdigits first (by simp)
    have hquote : first ≠ Text.quoteMark := by
      rintro rfl
      simp at hdigit
    have htake : s.cursor.ahead.takeWhile Text.isDigit = first :: run := by
      rw [hahead]
      exact Text.IsRun.takeWhile_eq ⟨hdigits, hends⟩
    refine ⟨first :: run, ?_⟩
    rw [readToken, if_neg hquote, if_pos hdigit, readNumber_of_digit hahead hdigit, htake]
    rfl
  | name hfirst hrun =>
    obtain ⟨rfl, rfl⟩ := List.cons.inj htext
    have hquote : first ≠ Text.quoteMark := by
      rintro rfl
      simp at hfirst
    refine ⟨first :: run, ?_⟩
    rw [readToken_of_bare hahead hquote (Text.isDigit_of_isNameStart hfirst) ⟨hrun, hends⟩,
      classifyRun, if_pos hfirst]
  | symbol hfirst hquote hrun =>
    obtain ⟨rfl, rfl⟩ := List.cons.inj htext
    have hname : ¬Text.isNameStart first = true := by
      simp [Text.isNameStart_of_isSymbolStart hfirst]
    refine ⟨first :: run, ?_⟩
    rw [readToken_of_bare hahead hquote (Text.isDigit_of_isSymbolStart hfirst) ⟨hrun, hends⟩,
      classifyRun, if_neg hname, if_pos hfirst]

/-- The reader that is chosen by the first character of a text makes the reading there. -/
theorem readToken_of_reading {s : Scanner} {first : Char} {run rest : List Char}
    {result : Except LexError Token} (hahead : s.cursor.ahead = first :: run ++ rest)
    (hstart : s.tokenStart = s.location) (h : Reads s.location (first :: run) rest result) :
    ∃ gathered, s.readToken first = (result, s.take (run.length + 1) gathered) := by
  generalize htext : first :: run = text at hahead h
  cases h with
  | token hspells hends =>
    subst htext
    exact readToken_of_spells hahead hspells hends
  | @unterminated body hbody =>
    obtain ⟨rfl, rfl⟩ := List.cons.inj htext
    refine ⟨run, ?_⟩
    rw [readToken, if_pos rfl, readString_of_open (by simpa using hahead) hbody]
  | misfit hfirst hrun =>
    obtain ⟨rfl, rfl⟩ := List.cons.inj htext
    have hclass := (Text.misfit_iff hfirst.isDigit_eq).mp hfirst
    refine ⟨first :: run, ?_⟩
    rw [readToken_of_bare hahead hfirst.ne_quoteMark hfirst.isDigit_eq hrun, classifyRun,
      if_neg (by simp [hclass.1]), if_neg (by simp [hclass.2]), hstart]

/-- Ahead of the scanner lie white space, then a text from which the result is read, and then the
rest. -/
structure Finds (s : Scanner) (gap text rest : List Char) (result : Except LexError Token) :
    Prop where
  /-- The three make up what is ahead. -/
  ahead : s.cursor.ahead = gap ++ (text ++ rest)
  /-- The text in front is white space. -/
  space : Text.IsSpace gap
  /-- The reading starts behind the white space. -/
  reads : Reads (s.location.after gap) text rest result

/-- The scanner after it has moved over white space and then read a text. -/
def landed (s : Scanner) (gap text gathered : List Char) : Scanner where
  cursor := s.cursor.advance (gap.length + text.length)
  lexeme := String.ofList gathered
  tokenStart := s.location.after gap
  failed := s.failed

/-- The rest is ahead of a scanner that has moved over white space and read the text behind it. -/
theorem Finds.ahead_landed {s : Scanner} {gap text rest : List Char}
    {result : Except LexError Token} (h : s.Finds gap text rest result) (gathered : List Char) :
    (s.landed gap text gathered).cursor.ahead = rest := by
  simp [landed, h.ahead]

/-- A request for a token makes the reading behind the white space ahead. -/
theorem Finds.nextToken_eq {s : Scanner} {gap text rest : List Char}
    {result : Except LexError Token} (h : s.Finds gap text rest result) :
    ∃ gathered, s.nextToken =
      { answer := result.map some
        events := [readingEvent (s.location.after gap) result]
        scanner := s.landed gap text gathered } := by
  obtain ⟨hahead, hgap, hreads⟩ := h
  obtain ⟨first, run, rfl, hfirst⟩ := hreads.exists_cons
  have htake : s.cursor.ahead.takeWhile Text.isWhiteSpace = gap := by
    rw [hahead]
    exact (hgap.isRun (by simpa using hfirst)).takeWhile_eq
  have hstart := s.toTokenStart_eq
  rw [htake] at hstart
  have hrest : s.toTokenStart.cursor.ahead = first :: run ++ rest := by
    simp [hstart, hahead]
  have hlocation : s.toTokenStart.location = s.location.after gap := by
    simp [hstart, location, hahead]
  have htoken : s.toTokenStart.tokenStart = s.location.after gap := by rw [hstart]
  obtain ⟨gathered, hread⟩ := readToken_of_reading hrest (htoken.trans hlocation.symm)
    (hlocation ▸ hreads)
  refine ⟨gathered, ?_⟩
  rw [nextToken_of_cons hrest, hread, htoken]
  simp [take, landed, hstart, Cursor.advance_advance]

/-- The answer to a request for a token is what the scanner finds. -/
theorem Finds.answer_eq {s : Scanner} {gap text rest : List Char}
    {result : Except LexError Token} (h : s.Finds gap text rest result) :
    s.nextToken.answer = result.map some := by
  obtain ⟨gathered, hnext⟩ := h.nextToken_eq
  rw [hnext]

/-- The token that a scanner finds starts behind the white space. -/
theorem Finds.tokenStart_eq {s : Scanner} {gap text rest : List Char}
    {result : Except LexError Token} (h : s.Finds gap text rest result) :
    s.nextToken.scanner.tokenStart = s.location.after gap := by
  obtain ⟨gathered, hnext⟩ := h.nextToken_eq
  rw [hnext, landed]

/-- A request for a token stops behind the text that the scanner finds. -/
theorem Finds.location_nextToken {s : Scanner} {gap text rest : List Char}
    {result : Except LexError Token} (h : s.Finds gap text rest result) :
    s.nextToken.scanner.location = (s.location.after gap).after text := by
  obtain ⟨gathered, hnext⟩ := h.nextToken_eq
  have htake : s.cursor.ahead.take (gap.length + text.length) = gap ++ text := by
    rw [h.ahead, ← List.append_assoc]
    exact List.take_left' (by simp)
  rw [hnext, ← Location.after_append, ← htake]
  rfl

/-- A request for a token leaves ahead what follows the text that the scanner finds. -/
theorem Finds.ahead_nextToken {s : Scanner} {gap text rest : List Char}
    {result : Except LexError Token} (h : s.Finds gap text rest result) :
    s.nextToken.scanner.cursor.ahead = rest := by
  obtain ⟨gathered, hnext⟩ := h.nextToken_eq
  rw [hnext, h.ahead_landed]

/-- Where only white space is ahead, a request for a token moves over it. -/
theorem nextToken_of_isSpace {s : Scanner} (hspace : Text.IsSpace s.cursor.ahead) :
    s.nextToken =
      { answer := .ok none
        events := []
        scanner :=
          { s with
            cursor := s.cursor.advance s.cursor.ahead.length
            tokenStart := s.location.after s.cursor.ahead } } := by
  have hrun : Text.IsRun Text.isWhiteSpace s.cursor.ahead [] := hspace.isRun (by simp)
  have htake : s.cursor.ahead.takeWhile Text.isWhiteSpace = s.cursor.ahead := by
    simpa using hrun.takeWhile_eq
  have hstart := s.toTokenStart_eq
  rw [htake] at hstart
  rw [nextToken_of_nil (by simp [hstart]), hstart]

/-- Where only white space is ahead, a request for a token answers that there is none. -/
theorem answer_of_isSpace {s : Scanner} (hspace : Text.IsSpace s.cursor.ahead) :
    s.nextToken.answer = .ok none := by
  rw [nextToken_of_isSpace hspace]

/-- Either only white space is ahead of a scanner, or it finds a reading behind it. -/
theorem isSpace_or_finds (s : Scanner) :
    Text.IsSpace s.cursor.ahead ∨ ∃ gap text rest result, s.Finds gap text rest result := by
  have hrun := Text.isRun_takeWhile Text.isWhiteSpace s.cursor.ahead
  have hahead := (List.takeWhile_append_dropWhile (p := Text.isWhiteSpace)
    (l := s.cursor.ahead)).symm
  cases hbehind : s.cursor.ahead.dropWhile Text.isWhiteSpace with
  | nil =>
    rw [hbehind, List.append_nil] at hahead
    exact Or.inl (hahead ▸ hrun.inside)
  | cons first behind =>
    have hfirst : Text.isWhiteSpace first = false := hrun.stops first (by simp [hbehind])
    obtain ⟨text, rest, result, htext, hreads⟩ :=
      exists_reads (s.location.after (s.cursor.ahead.takeWhile Text.isWhiteSpace)) behind hfirst
    rw [hbehind, htext] at hahead
    exact Or.inr ⟨_, text, rest, result, hahead, hrun.inside, hreads⟩

/-- A request that finds no token has only white space ahead. -/
theorem isSpace_of_answer {s : Scanner} (h : s.nextToken.answer = .ok none) :
    Text.IsSpace s.cursor.ahead := by
  rcases s.isSpace_or_finds with hspace | ⟨gap, text, rest, result, hfinds⟩
  · exact hspace
  · rw [hfinds.answer_eq] at h
    cases result <;> simp [Except.map] at h

/-- A request that does not answer that there is no token has found something to read. -/
theorem exists_finds {s : Scanner} (h : s.nextToken.answer ≠ .ok none) :
    ∃ gap text rest result, s.Finds gap text rest result :=
  s.isSpace_or_finds.resolve_left fun hspace => h (answer_of_isSpace hspace)

/-- A request that answers with a token or an error has found it. -/
theorem exists_finds_of_answer {s : Scanner} {result : Except LexError Token}
    (h : s.nextToken.answer = result.map some) :
    ∃ gap text rest, s.Finds gap text rest result := by
  rcases s.isSpace_or_finds with hspace | ⟨gap, text, rest, found, hfinds⟩
  · rw [answer_of_isSpace hspace] at h
    cases result <;> simp [Except.map] at h
  · have hmap : found.map some = result.map some := hfinds.answer_eq.symm.trans h
    obtain rfl : found = result := by
      cases found <;> cases result <;> simp_all [Except.map]
    exact ⟨gap, text, rest, hfinds⟩

/-- A request that answers with a token has found the token. -/
theorem exists_finds_of_token {s : Scanner} {token : Token}
    (h : s.nextToken.answer = .ok (some token)) :
    ∃ gap text rest, s.Finds gap text rest (.ok token) :=
  exists_finds_of_answer h

/-- A request that fails has found the error. -/
theorem exists_finds_of_error {s : Scanner} {error : LexError}
    (h : s.nextToken.answer = .error error) :
    ∃ gap text rest, s.Finds gap text rest (.error error) :=
  exists_finds_of_answer h

/-- What a scanner finds is determined, since one request for a token makes the reading. -/
theorem Finds.unique {s : Scanner} {gap gap' text text' rest rest' : List Char}
    {result result' : Except LexError Token} (h : s.Finds gap text rest result)
    (h' : s.Finds gap' text' rest' result') :
    gap = gap' ∧ text = text' ∧ rest = rest' ∧ result = result' := by
  have hrest : rest = rest' := h.ahead_nextToken.symm.trans h'.ahead_nextToken
  have hanswer := h.answer_eq.symm.trans h'.answer_eq
  have hresult : result = result' := by
    cases result <;> cases result' <;> simp_all [Except.map]
  obtain ⟨first, run, rfl, hfirst⟩ := h.reads.exists_cons
  obtain ⟨first', run', rfl, hfirst'⟩ := h'.reads.exists_cons
  obtain ⟨hgap, hbehind⟩ := (h.space.isRun (by simpa using hfirst)).unique
    (h'.space.isRun (by simpa using hfirst')) (h.ahead.symm.trans h'.ahead)
  rw [hrest] at hbehind
  exact ⟨hgap, List.append_cancel_right hbehind, hrest, hresult⟩

end Scanner

end Lexis
