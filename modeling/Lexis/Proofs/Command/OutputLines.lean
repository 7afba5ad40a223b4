import Lexis.Proofs.Command.TextOutput

/-!
# The lines of text output

Every token is written with a line feed behind it. But the text form of a string holds whatever the
string holds, and a line feed in it ends a line too. So the output has a line for each token and one
more for each line feed in a string, and the lines are those of the tokens just if no string holds
one. Nothing else that is written for a token holds a line feed.
-/

namespace Lexis

namespace Text

/-- The text consists of the lines, each with a line feed behind it. -/
structure HasLines (text : List Char) (lines : List (List Char)) : Prop where
  /-- The lines make up the text. -/
  whole : text = lines.flatMap (· ++ ['\n'])
  /-- No line holds a line feed. -/
  single : ∀ line ∈ lines, '\n' ∉ line

/-- A text that consists of lines has as many of them as line feeds. -/
theorem HasLines.length_eq {text : List Char} {lines : List (List Char)} (h : HasLines text lines) :
    lines.length = text.count '\n' := by
  obtain ⟨rfl, hsingle⟩ := h
  induction lines with
  | nil => rfl
  | cons line lines ih =>
    have hline := List.count_eq_zero_of_not_mem (hsingle line List.mem_cons_self)
    have hlater := ih fun l hl => hsingle l (List.mem_cons_of_mem _ hl)
    rw [List.length_cons, List.flatMap_cons, List.count_append, List.count_append, hline, ← hlater]
    simp [Nat.add_comm]

/-- A text has only one list of lines. -/
theorem HasLines.unique {text : List Char} {lines lines' : List (List Char)}
    (h : HasLines text lines) (h' : HasLines text lines') : lines = lines' := by
  obtain ⟨rfl, hsingle⟩ := h
  obtain ⟨hwhole, hsingle'⟩ := h'
  induction lines generalizing lines' with
  | nil =>
    cases lines' with
    | nil => rfl
    | cons line' lines' => simp at hwhole
  | cons line lines ih =>
    cases lines' with
    | nil => simp at hwhole
    | cons line' lines' =>
      simp only [List.flatMap_cons, List.append_assoc, List.singleton_append] at hwhole
      obtain ⟨hline, hrest⟩ := field_inj (hsingle line List.mem_cons_self)
        (hsingle' line' List.mem_cons_self) hwhole
      rw [hline, ih (fun l hl => hsingle l (List.mem_cons_of_mem _ hl)) hrest
        fun l hl => hsingle' l (List.mem_cons_of_mem _ hl)]

/-- Lines may follow one another. -/
theorem HasLines.append {text text' : List Char} {lines lines' : List (List Char)}
    (h : HasLines text lines) (h' : HasLines text' lines') :
    HasLines (text ++ text') (lines ++ lines') where
  whole := by rw [h.whole, h'.whole, List.flatMap_append]
  single := by
    intro line hline
    rcases List.mem_append.mp hline with hline | hline
    · exact h.single line hline
    · exact h'.single line hline

/-- A text with a line feed behind it consists of lines. -/
theorem exists_hasLines_terminated (text : List Char) :
    ∃ lines, HasLines (text ++ ['\n']) lines := by
  induction text with
  | nil => exact ⟨[[]], rfl, by simp⟩
  | cons c text ih =>
    obtain ⟨lines, hwhole, hsingle⟩ := ih
    by_cases hfeed : c = '\n'
    · subst hfeed
      refine ⟨[] :: lines, by simp [hwhole], ?_⟩
      simpa using hsingle
    · cases lines with
      | nil => simp at hwhole
      | cons line lines =>
        refine ⟨(c :: line) :: lines, by simp [hwhole], ?_⟩
        rw [List.forall_mem_cons] at hsingle ⊢
        exact ⟨by simp [Ne.symm hfeed, hsingle.1], hsingle.2⟩

/-- Several texts, each with a line feed behind it, consist of lines. -/
theorem exists_hasLines (texts : List (List Char)) :
    ∃ lines, HasLines (texts.flatMap (· ++ ['\n'])) lines := by
  induction texts with
  | nil => exact ⟨[], rfl, by simp⟩
  | cons text texts ih =>
    obtain ⟨lines, hlines⟩ := exists_hasLines_terminated text
    obtain ⟨later, hlater⟩ := ih
    exact ⟨lines ++ later, hlines.append hlater⟩

end Text

/-- The line feeds that a token holds. -/
def Token.lineFeeds : Token → ℕ
  | string text => text.toList.count '\n'
  | _ => 0

/-- The text form of a token shows the line feeds that the token holds, and no others. -/
theorem Token.Produced.count_display {token : Token} (h : token.Produced) :
    token.display.toList.count '\n' = token.lineFeeds := by
  cases token with
  | string text =>
    have hquote : ("\"".toList).count '\n' = 0 := by decide
    simp only [display, String.toList_append, List.count_append, hquote, lineFeeds]
    omega
  | name text => exact List.count_eq_zero_of_not_mem h.newline_not_mem_name
  | symbol char =>
    refine List.count_eq_zero_of_not_mem ?_
    rcases h with ⟨-, hspace, -⟩ | h
    · rintro hfeed
      obtain rfl : '\n' = char := by simpa [display] using hfeed
      rw [Text.isWhiteSpace_newline] at hspace
      cases hspace
    · cases h
  | number value =>
    exact List.count_eq_zero_of_not_mem (Binary64.newline_not_mem_display h.number)

namespace TokensRequest

/-- What is written for a located token, without the line feed behind it. -/
def entry (positions : Bool) (place : Location × Token) : String :=
  (if positions then s!"{place.1}\t" else "") ++ s!"{place.2.kind}\t{place.2}"

/-- The line of a token is its entry and a line feed. -/
theorem toList_line (positions : Bool) (place : Location × Token) :
    (line positions place.1 place.2).toList = (entry positions place).toList ++ ['\n'] := by
  cases positions <;> simp [line, entry, toString]

/-- The entry of a token holds no line feeds but those of the token. -/
theorem count_entry (positions : Bool) {place : Location × Token} (h : place.2.Produced) :
    (entry positions place).toList.count '\n' = place.2.lineFeeds := by
  have hcount (n : ℕ) : (Nat.toDigits 10 n).count '\n' = 0 := by
    rw [← toList_toString_nat]
    exact List.count_eq_zero_of_not_mem (not_mem_toString_nat rfl)
  have hword : place.2.kind.word.toList.count '\n' = 0 := by cases place.2.kind <;> decide
  rw [← h.count_display]
  cases positions <;> simp [entry, toString, hword, hcount]

/-- What is written for several located tokens: their entries, each with a line feed behind it. -/
def entries (positions : Bool) (places : List (Location × Token)) : String :=
  String.join (places.map fun place => entry positions place ++ "\n")

/-- The characters of several entries are those of each entry and a line feed, one after the
other. -/
theorem toList_entries (positions : Bool) (places : List (Location × Token)) :
    (entries positions places).toList =
      (places.map fun place => (entry positions place).toList).flatMap (· ++ ['\n']) := by
  simp [entries, String.toList_join, List.flatMap_map]

/-- Text output consists of the entries of the tokens. -/
theorem outputText_eq_entries {request : TokensRequest} (hformat : request.format = .text)
    (places : List (Location × Token)) :
    request.outputText places = entries request.positions places := by
  refine String.toList_inj.mp ?_
  simp only [outputText, hformat, toList_entries, String.toList_join, List.flatMap_map, toList_line]

/-- In the entries of tokens there is one line feed for each token, and those that the tokens
hold. -/
theorem count_entries (positions : Bool) {places : List (Location × Token)}
    (h : ∀ place ∈ places, place.2.Produced) :
    (entries positions places).toList.count '\n' =
      places.length + (places.map fun place => place.2.lineFeeds).sum := by
  rw [toList_entries]
  induction places with
  | nil => rfl
  | cons place places ih =>
    have hplace := count_entry positions (h place List.mem_cons_self)
    have hlater := ih fun p hp => h p (List.mem_cons_of_mem _ hp)
    simp only [List.map_cons, List.flatMap_cons, List.count_append, hplace, hlater,
      List.count_singleton_self, List.length_cons, List.sum_cons]
    omega

/-- All lines that text output consists of. -/
structure PrintsLines (positions : Bool) (places : List (Location × Token)) (delivery : Delivery ℕ)
    (lines : List (List Char)) : Prop where
  /-- The result is the number of tokens. -/
  counted : delivery.result = .ok places.length
  /-- What is written for each token is written, with a line feed behind it. -/
  written : delivery.output = utf8 (entries positions places)
  /-- The text that is written consists of the lines. -/
  consists : Text.HasLines (entries positions places).toList lines
  /-- There is one line for each token, and one for each line feed in a token. -/
  length : lines.length = places.length + (places.map fun place => place.2.lineFeeds).sum
  /-- There are as many lines as tokens just if no string holds a line feed. -/
  length_iff : lines.length = places.length ↔
    ∀ place ∈ places, ∀ text, place.2 = .string text → '\n' ∉ text.toList
  /-- The lines are those of the tokens, one after the other, just if no string holds a line
  feed. -/
  lines_iff : lines = places.map (fun place => (entry positions place).toList) ↔
    ∀ place ∈ places, ∀ text, place.2 = .string text → '\n' ∉ text.toList

end TokensRequest

/-- A token holds no line feed just if it is not a string with one. -/
theorem Token.lineFeeds_eq_zero_iff (token : Token) :
    token.lineFeeds = 0 ↔ ∀ text, token = .string text → '\n' ∉ text.toList := by
  cases token with
  | string text => simp [lineFeeds, List.count_eq_zero]
  | _ => simp [lineFeeds]

section

variable {files : Files} {stdin : StandardInput} {input : Input} {source : String}
  {tokens : List Token}

/-- The text output for an accepted source consists of a line for each token and one more for each
line feed in a string. If no string holds one, the lines are those of the tokens. -/
theorem text_output_lines (positions : Bool) (htext : (input.read files stdin).text = .ok source)
    (htokens : tokenize source = .ok tokens) :
    ∃ places lines, places.map Prod.snd = tokens ∧
      (input.scan files stdin).tokens = .ok places ∧
      TokensRequest.PrintsLines positions places
        ((TokensRequest.report files stdin ⟨input, .text, positions⟩).deliver none) lines := by
  obtain ⟨places, hscan, rfl⟩ := scan_of_tokenize htext htokens
  have hproduced : ∀ place ∈ places, place.2.Produced := fun place hplace =>
    produced_of_tokenize htokens place.2 (List.mem_map_of_mem hplace)
  obtain ⟨lines, hlines⟩ := Text.exists_hasLines
    (places.map fun place => (TokensRequest.entry positions place).toList)
  rw [← TokensRequest.toList_entries] at hlines
  have hlength := hlines.length_eq
  rw [TokensRequest.count_entries positions hproduced] at hlength
  have hfeeds : lines.length = places.length ↔
      ∀ place ∈ places, ∀ text, place.2 = .string text → '\n' ∉ text.toList := by
    rw [hlength, Nat.add_eq_left, List.sum_eq_zero_iff_forall_eq_nat, List.forall_mem_map]
    exact forall₂_congr fun place _ => place.2.lineFeeds_eq_zero_iff
  refine ⟨places, lines, rfl, hscan, ?_⟩
  constructor
  case counted =>
    rw [(Report.deliver_none _).2, TokensRequest.report_result, hscan]
    rfl
  case written =>
    rw [TokensRequest.output_of_tokens hscan, TokensRequest.outputText_eq_entries rfl]
  case consists => exact hlines
  case length => exact hlength
  case length_iff => exact hfeeds
  case lines_iff =>
    rw [← hfeeds]
    constructor
    · rintro rfl
      exact List.length_map _
    · intro hsame
      refine hlines.unique ⟨TokensRequest.toList_entries positions places, ?_⟩
      rw [List.forall_mem_map]
      intro place hplace
      rw [← List.count_eq_zero, TokensRequest.count_entry positions (hproduced place hplace),
        Token.lineFeeds_eq_zero_iff]
      exact hfeeds.mp hsame place hplace

/-- A string with a line feed takes two lines, and a name in the same source one. -/
theorem text_output_lines_two_for_one :
    ∃ places lines, places.map Prod.snd = [.string "a\nb", .name "x"] ∧
      TokensRequest.PrintsLines true places
        ((TokensRequest.report (fun _ => .missing) .empty
          ⟨.inline "\"a\nb\" x", .text, true⟩).deliver none) lines ∧
      lines.length = 3 := by
  have htokens : tokenize "\"a\nb\" x" = .ok [.string "a\nb", .name "x"] := by decide +kernel
  obtain ⟨places, lines, hplaces, -, hprints⟩ :=
    @text_output_lines (fun _ => .missing) .empty (.inline "\"a\nb\" x") _ _ true rfl htokens
  refine ⟨places, lines, hplaces, hprints, ?_⟩
  have hfeeds : (places.map fun place => place.2.lineFeeds) =
      (places.map Prod.snd).map Token.lineFeeds := by simp
  have hcount : places.length = (places.map Prod.snd).length := (List.length_map _).symm
  rw [hprints.length, hfeeds, hcount, hplaces]
  decide

/-- Text output does not always have one line for each token: a string may hold a line feed. -/
theorem not_one_line_for_each_token :
    ¬∀ (source : String) (positions : Bool) (tokens : List Token) (text : String)
      (lines : List (List Char)), tokenize source = .ok tokens →
      ((TokensRequest.report (fun _ => .missing) .empty
        ⟨.inline source, .text, positions⟩).deliver none).output = utf8 text →
      Text.HasLines text.toList lines → lines.length = tokens.length := by
  intro h
  have hlines : Text.HasLines "string\t\"a\nb\"\n".toList
      ["string\t\"a".toList, "b\"".toList] := ⟨rfl, by decide⟩
  have hcount := h "\"a\nb\"" false [.string "a\nb"] _ _ (by decide +kernel) (by decide +kernel)
    hlines
  cases hcount

end

end Lexis
