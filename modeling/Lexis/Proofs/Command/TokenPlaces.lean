import Lexis.Proofs.Command.TextOutput
import Lexis.Proofs.Scanner.Starts

/-!
# A line and a column name a place

Neither a token record nor a line of text gives the offset of its token, and an error is only worded
with its line and its column. For a source in which lines and columns are counted without overflow
this is enough: the line and the column grow along a scan, so no two tokens or errors have the same,
and the offset can be recovered from them.
-/

namespace Lexis

namespace Location

/-- A place is written so that its line and its column can be read off, whatever follows the
separator. -/
theorem lineColumn_eq_of_written {l m : Location} {separator : Char}
    (hseparator : separator.isDigit = false) {rest rest' : List Char}
    (h : (toString l).toList ++ separator :: rest = (toString m).toList ++ separator :: rest') :
    l.lineColumn = m.lineColumn := by
  have hwritten : ∀ (k : Location) (behind : List Char), (toString k).toList ++ behind =
      (toString k.line.toNat).toList ++ ':' :: ((toString k.column.toNat).toList ++ behind) := by
    intro k behind
    simp [toString]
  rw [hwritten, hwritten] at h
  obtain ⟨hline, hbehind⟩ := Text.field_inj (not_mem_toString_nat rfl) (not_mem_toString_nat rfl) h
  obtain ⟨hcolumn, -⟩ := Text.field_inj (not_mem_toString_nat hseparator)
    (not_mem_toString_nat hseparator) hbehind
  rw [lineColumn, lineColumn, toString_nat_inj (String.toList_inj.mp hline),
    toString_nat_inj (String.toList_inj.mp hcolumn)]

/-- Places with different lines or columns are written differently. -/
theorem lineColumn_eq_of_toString_eq {l m : Location} (h : toString l = toString m) :
    l.lineColumn = m.lineColumn := by
  have hwritten : (toString l).toList ++ ['\t'] = (toString m).toList ++ ['\t'] := by rw [h]
  exact lineColumn_eq_of_written rfl hwritten

end Location

namespace Scanner

/-- The place that people are told with an answer: where the token starts, or what the error
concerns. -/
def toldPlace : Except LexError (Option (Location × Token)) → Option Location
  | .ok none => none
  | .ok (some place) => some place.1
  | .error error => some error.location

/-- The place that people are told with an answer is where the step starts. -/
theorem eq_tokenStart_of_toldPlace {s : Scanner} {l : Location}
    (h : toldPlace s.nextLocated.answer = some l) : l = s.nextToken.scanner.tokenStart := by
  rw [nextLocated_answer] at h
  cases hanswer : s.nextToken.answer with
  | error error =>
    obtain ⟨gap, text, rest, hfinds⟩ := exists_finds_of_error hanswer
    rw [hfinds.tokenStart_eq, ← hfinds.reads.error_location]
    simpa [hanswer, Except.map, toldPlace] using h.symm
  | ok token? =>
    cases token? with
    | none => simp [hanswer, Except.map, toldPlace] at h
    | some token => simpa [hanswer, Except.map, toldPlace] using h.symm

end Scanner

/-- The tokens of a scanned input start at later and later places of the text. -/
theorem pairwise_of_scan {source : String} (hlength : source.length < UInt32.size - 1)
    {files : Files} {stdin : StandardInput} {input : Input}
    (htext : (input.read files stdin).text = .ok source) {places : List (Location × Token)}
    (hplaces : (input.scan files stdin).tokens = .ok places) :
    places.Pairwise fun place later => place.1.lineColumn < later.1.lineColumn := by
  have hfound := ((sourceConsumedAlike source).scan files stdin input htext places hplaces).2
  have hstart : ∀ i (hi : i < places.length), places[i].1 =
      ((Scanner.ofSource source).afterRequests i).nextToken.scanner.tokenStart := by
    intro i hi
    exact Scanner.eq_tokenStart_of_toldPlace (by rw [(hfound i hi).1]; rfl)
  -- Of two tokens, the later one is found after some more requests for located tokens.
  rw [List.pairwise_iff_getElem]
  intro i j hi hj hij
  obtain ⟨k, rfl⟩ := Nat.exists_eq_add_of_le (Nat.succ_le_of_lt hij)
  have hnew : (Scanner.ofSource source).HasRead source [] := Cursor.hasRead_ofSource source
  obtain ⟨more, hmore⟩ := hnew.afterRequests i
  have htoken : ((Scanner.ofSource source).afterRequests i).nextToken.answer ≠ .ok none := by
    intro hend
    have hanswer := (hfound i hi).1
    simp [Scanner.nextLocated_answer, hend, Except.map] at hanswer
  rw [hstart i hi, hstart _ hj, Nat.succ_eq_add_one, Scanner.afterRequests_add,
    Scanner.afterRequests_add, Scanner.afterRequests_eq_asked _ k]
  exact hmore.tokenStart_lt_later hlength htoken _

/-- A token of a scanned input starts between two characters of the text. -/
theorem isPlaceIn_of_scan {source : String} {files : Files} {stdin : StandardInput} {input : Input}
    (htext : (input.read files stdin).text = .ok source) {places : List (Location × Token)}
    (hplaces : (input.scan files stdin).tokens = .ok places) {place : Location × Token}
    (hplace : place ∈ places) : place.1.IsPlaceIn source := by
  have hfound := ((sourceConsumedAlike source).scan files stdin input htext places hplaces).2
  obtain ⟨i, hi, rfl⟩ := List.getElem_of_mem hplace
  obtain ⟨front, gap, text, rest, hsource, -, -, -, hstart⟩ := (hfound i hi).2
  refine ⟨front ++ gap, ⟨text ++ rest, ?_⟩, hstart⟩
  rw [hsource, List.append_assoc _ text]

/-- Lines and columns of a source in place of its offsets. -/
structure PlacesToldApart (source : String) : Prop where
  /-- Of the places that a cursor can reach, those with smaller offsets are those with smaller lines
  or, on the same line, smaller columns. -/
  order : ∀ moves moves' : List Cursor.Move,
    ((Cursor.ofSource source).moved moves).location.offset <
        ((Cursor.ofSource source).moved moves').location.offset ↔
      ((Cursor.ofSource source).moved moves).location.lineColumn <
        ((Cursor.ofSource source).moved moves').location.lineColumn
  /-- Along the steps of a scan, whatever was asked before, the line and the column where a step
  starts increase. -/
  steps : ∀ requests,
    ((Scanner.ofSource source).asked requests).steps.Pairwise fun step later =>
      step.start.lineColumn < later.start.lineColumn
  /-- The line and the column where steps start also increase if anything else is asked between
  them. -/
  later : ∀ requests between,
    ((Scanner.ofSource source).asked requests).nextToken.answer ≠ .ok none →
    ((Scanner.ofSource source).asked requests).nextToken.scanner.tokenStart.lineColumn <
      ((((Scanner.ofSource source).asked requests).nextToken.scanner.asked
        between).nextToken.scanner.tokenStart).lineColumn
  /-- In any two scans, a token or an error whose place is written in the same way is the same, and
  takes the same text. -/
  told : ∀ requests requests' l l',
    Scanner.toldPlace ((Scanner.ofSource source).asked requests).nextLocated.answer = some l →
    Scanner.toldPlace ((Scanner.ofSource source).asked requests').nextLocated.answer = some l' →
    toString l = toString l' →
    ((Scanner.ofSource source).asked requests).nextToken.step =
      ((Scanner.ofSource source).asked requests').nextToken.step
  /-- No two tokens of an input are printed with the same place. -/
  printed : ∀ (files : Files) (stdin : StandardInput) (input : Input),
    (input.read files stdin).text = .ok source →
    ∀ places, (input.scan files stdin).tokens = .ok places →
      (places.map fun place => toString place.1).Nodup
  /-- A line of text begins with one place that a cursor can reach: the one with the offset of the
  token. -/
  line : ∀ (files : Files) (stdin : StandardInput) (input : Input),
    (input.read files stdin).text = .ok source →
    ∀ places, (input.scan files stdin).tokens = .ok places → ∀ place ∈ places, ∀ moves,
      (∃ behind, TokensRequest.line true place.1 place.2 =
        s!"{((Cursor.ofSource source).moved moves).location}\t" ++ behind) ↔
      ((Cursor.ofSource source).moved moves).location.offset = place.1.offset
  /-- The record of a token holds the line and the column of one such place, the one with its
  offset. -/
  record : ∀ (files : Files) (stdin : StandardInput) (input : Input),
    (input.read files stdin).text = .ok source →
    ∀ places, (input.scan files stdin).tokens = .ok places → ∀ place ∈ places, ∀ moves,
      (∃ kind value, place.2.record place.1 = .object
        [("kind", kind), ("value", value),
          ("line", .natural ((Cursor.ofSource source).moved moves).location.line.toNat),
          ("column", .natural ((Cursor.ofSource source).moved moves).location.column.toNat)]) ↔
      ((Cursor.ofSource source).moved moves).location.offset = place.1.offset

/-- Where the words for lines and columns can hold them, a line and a column name one place of the
source. They keep the order of the offsets, and what is printed can be told apart by them. -/
theorem places_told_apart (source : String) (hlength : source.length < UInt32.size - 1) :
    PlacesToldApart source := by
  have hnew : (Scanner.ofSource source).HasRead source [] := Cursor.hasRead_ofSource source
  constructor
  case order =>
    intro moves moves'
    exact (Cursor.isPlaceIn_moved source moves).lineColumn_lt_iff hlength
      (Cursor.isPlaceIn_moved source moves')
  case steps =>
    intro requests
    obtain ⟨more, hmore⟩ := hnew.asked requests
    exact hmore.pairwise_steps hlength
  case later =>
    intro requests between hfound
    obtain ⟨more, hmore⟩ := hnew.asked requests
    exact hmore.tokenStart_lt_later hlength hfound between
  case told =>
    intro requests requests' l l' hl hl' hwritten
    obtain ⟨more, hmore⟩ := hnew.asked requests
    obtain ⟨more', hmore'⟩ := hnew.asked requests'
    obtain rfl := Scanner.eq_tokenStart_of_toldPlace hl
    obtain rfl := Scanner.eq_tokenStart_of_toldPlace hl'
    have hstart := hmore.isPlaceIn_tokenStart.eq_of_lineColumn_eq hlength
      hmore'.isPlaceIn_tokenStart (Location.lineColumn_eq_of_toString_eq hwritten)
    exact hmore.step_eq_of_tokenStart_eq hmore' hstart
  case printed =>
    intro files stdin input htext places hplaces
    refine List.pairwise_map.mpr ((pairwise_of_scan hlength htext hplaces).imp ?_)
    intro place later hlt hwritten
    exact hlt.ne (Location.lineColumn_eq_of_toString_eq hwritten)
  case line =>
    intro files stdin input htext places hplaces place hplace moves
    have hreached := Cursor.isPlaceIn_moved source moves
    have hin := isPlaceIn_of_scan htext hplaces hplace
    constructor
    · rintro ⟨behind, hline⟩
      have hwritten := congrArg String.toList hline
      simp only [TokensRequest.line, if_true, String.toList_append, List.append_assoc] at hwritten
      have hsame := Location.lineColumn_eq_of_written rfl hwritten
      rw [hin.eq_of_lineColumn_eq hlength hreached hsame]
    · intro hoffset
      rw [hreached.eq_of_offset_eq hin hoffset]
      exact ⟨_, rfl⟩
  case record =>
    intro files stdin input htext places hplaces place hplace moves
    have hreached := Cursor.isPlaceIn_moved source moves
    have hin := isPlaceIn_of_scan htext hplaces hplace
    constructor
    · rintro ⟨kind, value, hrecord⟩
      have hsame : place.1.lineColumn =
          ((Cursor.ofSource source).moved moves).location.lineColumn := by
        simp only [Token.record, Json.object.injEq, List.cons.injEq, Prod.mk.injEq,
          Json.natural.injEq, true_and, and_true] at hrecord
        rw [Location.lineColumn, Location.lineColumn, hrecord.2.2.1, hrecord.2.2.2]
      rw [hin.eq_of_lineColumn_eq hlength hreached hsame]
    · intro hoffset
      rw [hreached.eq_of_offset_eq hin hoffset]
      exact ⟨_, _, rfl⟩

/-- The name behind a string with a line feed and letters of two bytes starts on the second line. No
other place of the source has this line and column, and none is written in this way. -/
theorem places_told_apart_two_lines :
    (Scanner.ofSource "\"λ\nλ\" b").located.answer =
        .ok [(⟨0, 1, 1⟩, .string "λ\nλ"), (⟨8, 2, 4⟩, .name "b")] ∧
      PlacesToldApart "\"λ\nλ\" b" :=
  ⟨by decide +kernel, places_told_apart _ (by decide)⟩

end Lexis
