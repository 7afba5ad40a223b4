import Lexis.Proofs.Command.Printing
import Lexis.Proofs.Number.Numerals
import Lexis.Proofs.Scanner.RoundTrip

/-!
# Text output tells the tokens apart

A line of text escapes nothing, and a string may hold tabs, line feeds and whatever looks like
another line. All the same the output can be read in one way only: the fields before the token end
at their first separator, and the token ends where its kind lets it end, a string at its first
quotation mark and all else at its first line feed. This holds for the tokens that a scanner
produces, and for no others.
-/

namespace Lexis

/-- Where a field ends at its first separator, the field and what follows it are determined. -/
theorem Text.field_inj {separator : Char} {field field' rest rest' : List Char}
    (h : separator ∉ field) (h' : separator ∉ field')
    (htext : field ++ separator :: rest = field' ++ separator :: rest') :
    field = field' ∧ rest = rest' := by
  have hrun : ∀ {field rest : List Char}, separator ∉ field →
      IsRun (· != separator) field (separator :: rest) := by
    intro field rest hfield
    refine ⟨fun c hc => bne_iff_ne.mpr ?_, by simp⟩
    rintro rfl
    exact hfield hc
  obtain ⟨hfield, hrest⟩ := (hrun h).unique (hrun h') htext
  exact ⟨hfield, (List.cons.inj hrest).2⟩

namespace Token

/-- The number in a token that a scanner can produce is an integer or infinite. -/
theorem Produced.number {value : Binary64} (h : (Token.number value).Produced) :
    value.IsInteger ∨ value = .infinity :=
  h.imp_right Token.number.inj

/-- A name that a scanner can produce holds no line feed, which is white space. -/
theorem Produced.newline_not_mem_name {text : String} (h : (Token.name text).Produced) :
    '\n' ∉ text.toList := by
  rcases h with ⟨-, hspace⟩ | h
  · intro hmem
    have hline := hspace '\n' hmem
    rw [Text.isWhiteSpace_newline] at hline
    cases hline
  · cases h

/-- No string that a scanner can produce holds a quotation mark. -/
theorem Produced.quoteMark_not_mem_string {text : String} (h : (Token.string text).Produced) :
    '"' ∉ text.toList := by
  rcases h with hquote | h
  · exact hquote
  · cases h

/-- The text form of a token, with a line feed behind it, ends in one place only. -/
theorem display_append_inj {token token' : Token} (hkind : token.kind = token'.kind)
    (h : token.Produced) (h' : token'.Produced) {rest rest' : List Char}
    (htext : token.display.toList ++ '\n' :: rest = token'.display.toList ++ '\n' :: rest') :
    token = token' ∧ rest = rest' := by
  cases token <;> cases token' <;> try cases hkind
  case string text text' =>
    simp only [display, String.toList_append, List.append_assoc] at htext
    have hbehind := List.cons.inj htext
    obtain ⟨hbody, hrest⟩ := Text.field_inj h.quoteMark_not_mem_string
      h'.quoteMark_not_mem_string hbehind.2
    exact ⟨congrArg Token.string (String.toList_inj.mp hbody), (List.cons.inj hrest).2⟩
  case name text text' =>
    obtain ⟨hbody, hrest⟩ := Text.field_inj h.newline_not_mem_name h'.newline_not_mem_name htext
    exact ⟨congrArg Token.name (String.toList_inj.mp hbody), hrest⟩
  case symbol char char' =>
    simp only [display, String.toList_singleton] at htext
    obtain ⟨hchar, hrest⟩ := List.cons.inj htext
    exact ⟨congrArg Token.symbol hchar, (List.cons.inj hrest).2⟩
  case number value value' =>
    obtain ⟨hdisplay, hrest⟩ := Text.field_inj (Binary64.newline_not_mem_display h.number)
      (Binary64.newline_not_mem_display h'.number) htext
    have hvalue := Binary64.eq_of_display_eq h.number h'.number (String.toList_inj.mp hdisplay)
    exact ⟨congrArg Token.number hvalue, hrest⟩

end Token

/-- The words for the kinds of token are different. -/
theorem TokenKind.word_injective : Function.Injective TokenKind.word := by
  intro kind kind' h
  cases kind <;> cases kind' <;> first | rfl | exact absurd h (by decide)

/-- The words for the kinds of token hold no tab. -/
theorem TokenKind.tab_not_mem_word (kind : TokenKind) : '\t' ∉ kind.word.toList := by
  cases kind <;> decide

namespace TokensRequest

/-- The fields of a line after the place: the word for the kind and the text form, with tabs
between. -/
def described (token : Token) (rest : List Char) : List Char :=
  token.kind.word.toList ++ '\t' :: (token.display.toList ++ '\n' :: rest)

/-- A line without a place consists of the word for the kind and the text form. -/
theorem toList_line_false (start : Location) (token : Token) (rest : List Char) :
    (line false start token).toList ++ rest = described token rest := by
  simp [line, described, toString]

/-- In a line with a place, the line and the column stand before the word for the kind. -/
theorem toList_line_true (start : Location) (token : Token) (rest : List Char) :
    (line true start token).toList ++ rest =
      (toString start.line.toNat).toList ++ ':' ::
        ((toString start.column.toNat).toList ++ '\t' :: described token rest) := by
  simp [line, described, toString]

/-- The word for the kind and the text form tell the token, and where its line ends. -/
theorem described_inj {token token' : Token} (h : token.Produced) (h' : token'.Produced)
    {rest rest' : List Char} (htext : described token rest = described token' rest') :
    token = token' ∧ rest = rest' := by
  obtain ⟨hword, hbehind⟩ :=
    Text.field_inj token.kind.tab_not_mem_word token'.kind.tab_not_mem_word htext
  have hkind := TokenKind.word_injective (String.toList_inj.mp hword)
  exact Token.display_append_inj hkind h h' hbehind

/-- What a line tells of a located token: the token and, if places are asked for, the line and the
column. -/
def shown (positions : Bool) (place : Location × Token) : Option (UInt32 × UInt32) × Token :=
  (if positions then some (place.1.line, place.1.column) else none, place.2)

/-- A line determines what it tells of its token, and where it ends. -/
theorem line_append_inj {positions : Bool} {place place' : Location × Token}
    (h : place.2.Produced) (h' : place'.2.Produced) {rest rest' : List Char}
    (htext : (line positions place.1 place.2).toList ++ rest =
      (line positions place'.1 place'.2).toList ++ rest') :
    shown positions place = shown positions place' ∧ rest = rest' := by
  cases positions with
  | false =>
    rw [toList_line_false, toList_line_false] at htext
    obtain ⟨htoken, hrest⟩ := described_inj h h' htext
    exact ⟨by simp [shown, htoken], hrest⟩
  | true =>
    rw [toList_line_true, toList_line_true] at htext
    obtain ⟨hline, hbehind⟩ :=
      Text.field_inj (not_mem_toString_nat rfl) (not_mem_toString_nat rfl) htext
    obtain ⟨hcolumn, hbehind⟩ :=
      Text.field_inj (not_mem_toString_nat rfl) (not_mem_toString_nat rfl) hbehind
    obtain ⟨htoken, hrest⟩ := described_inj h h' hbehind
    have hline := toString_uint32_inj (String.toList_inj.mp hline)
    have hcolumn := toString_uint32_inj (String.toList_inj.mp hcolumn)
    exact ⟨by simp [shown, hline, hcolumn, htoken], hrest⟩

/-- Lines one after the other determine what each of them tells of its token. -/
theorem lines_inj {positions : Bool} {places places' : List (Location × Token)}
    (h : ∀ place ∈ places, place.2.Produced) (h' : ∀ place ∈ places', place.2.Produced)
    (htext : (places.flatMap fun place => (line positions place.1 place.2).toList) =
      places'.flatMap fun place => (line positions place.1 place.2).toList) :
    places.map (shown positions) = places'.map (shown positions) := by
  have hline : ∀ place : Location × Token, (line positions place.1 place.2).toList ≠ [] := by
    intro place hnil
    cases positions <;> simp [line, toString] at hnil
  induction places generalizing places' with
  | nil =>
    cases places' with
    | nil => rfl
    | cons place' places' => simp [hline] at htext
  | cons place places ih =>
    cases places' with
    | nil => simp [hline] at htext
    | cons place' places' =>
      rw [List.flatMap_cons, List.flatMap_cons] at htext
      obtain ⟨hshown, hrest⟩ := line_append_inj (h place (by simp)) (h' place' (by simp)) htext
      have hlater := ih (fun p hp => h p (List.mem_cons_of_mem _ hp))
        (fun p hp => h' p (List.mem_cons_of_mem _ hp)) hrest
      rw [List.map_cons, List.map_cons, hshown, hlater]

end TokensRequest

/-- The lines and columns where located tokens start. -/
def starts (places : List (Location × Token)) : List (UInt32 × UInt32) :=
  places.map fun place => (place.1.line, place.1.column)

/-- The tokens that are found in an input are such as a scanner can produce. -/
theorem produced_of_scan {files : Files} {stdin : StandardInput} {input : Input} {source : String}
    {places : List (Location × Token)} (htext : (input.read files stdin).text = .ok source)
    (hplaces : (Scanner.ofSource source).located.answer = .ok places) :
    tokenize source = .ok (places.map Prod.snd) ∧ (input.scan files stdin).tokens = .ok places ∧
      ∀ place ∈ places, place.2.Produced := by
  have hscan : (input.scan files stdin).tokens = .ok places := by
    rw [Input.scan, htext]
    simp only [hplaces]
    rfl
  have htokens := ((sourceConsumedAlike source).scan files stdin input htext places hscan).1
  exact ⟨htokens, hscan, fun place hplace =>
    produced_of_tokenize htokens place.2 (List.mem_map_of_mem hplace)⟩

section

variable {files files' : Files} {stdin stdin' : StandardInput} {input input' : Input}
  {source source' : String} {places places' : List (Location × Token)}

/-- If two accepted sources give the same lines of text, they have the same tokens, and where the
lines begin with places, the tokens start at the same lines and columns. -/
theorem tokens_eq_of_text_output_eq (positions : Bool)
    (htext : (input.read files stdin).text = .ok source)
    (hplaces : (Scanner.ofSource source).located.answer = .ok places)
    (htext' : (input'.read files' stdin').text = .ok source')
    (hplaces' : (Scanner.ofSource source').located.answer = .ok places')
    (hsame : ((TokensRequest.report files stdin ⟨input, .text, positions⟩).deliver none).output =
      ((TokensRequest.report files' stdin' ⟨input', .text, positions⟩).deliver none).output) :
    tokenize source = .ok (places.map Prod.snd) ∧
      tokenize source' = .ok (places'.map Prod.snd) ∧
      places.map Prod.snd = places'.map Prod.snd ∧
      (positions = true → starts places = starts places') := by
  obtain ⟨htokens, hscan, hproduced⟩ := produced_of_scan htext hplaces
  obtain ⟨htokens', hscan', hproduced'⟩ := produced_of_scan htext' hplaces'
  rw [TokensRequest.output_of_tokens hscan, TokensRequest.output_of_tokens hscan'] at hsame
  have hlines := congrArg String.toList (utf8_inj.mp hsame)
  simp only [TokensRequest.outputText, String.toList_join, List.flatMap_map] at hlines
  have hshown := TokensRequest.lines_inj hproduced hproduced' hlines
  refine ⟨htokens, htokens', ?_, ?_⟩
  · have h := congrArg (List.map Prod.snd) hshown
    simpa [TokensRequest.shown, Function.comp_def] using h
  · rintro rfl
    have h := congrArg (List.map fun told => told.1.getD (0, 0)) hshown
    simpa [TokensRequest.shown, starts, Function.comp_def] using h

/-- A string may hold what looks like another line, and the offsets need not be the same: a
no-break space takes two bytes and one column. -/
theorem tokens_eq_of_text_output_eq_fake_line :
    ∃ places places',
      (Scanner.ofSource "\"a\n2:1\tname\tb\" 12").located.answer = .ok places ∧
      (Scanner.ofSource "\"a\n2:1\tname\tb\"\u00a012\n").located.answer = .ok places' ∧
      places.length = 2 ∧ places ≠ places' ∧
      places.map Prod.snd = places'.map Prod.snd ∧
      starts places = starts places' := by
  have hplaces : (Scanner.ofSource "\"a\n2:1\tname\tb\" 12").located.answer =
      .ok [(⟨0, 1, 1⟩, .string "a\n2:1\tname\tb"), (⟨15, 2, 13⟩, .number (.ofNat 12))] := by
    decide +kernel
  have hplaces' : (Scanner.ofSource "\"a\n2:1\tname\tb\"\u00a012\n").located.answer =
      .ok [(⟨0, 1, 1⟩, .string "a\n2:1\tname\tb"), (⟨16, 2, 13⟩, .number (.ofNat 12))] := by
    decide +kernel
  obtain ⟨-, -, htokens, hstarts⟩ := @tokens_eq_of_text_output_eq (fun _ => .missing)
    (fun _ => .missing) .empty .empty (.inline _) (.inline _) _ _ _ _ true rfl hplaces rfl hplaces'
    (by decide +kernel)
  exact ⟨_, _, hplaces, hplaces', rfl, by decide +kernel, htokens, hstarts rfl⟩

end

end Lexis
