import Lexis.Proofs.Json.Notation
import Lexis.Proofs.Json.ReadBack
import Lexis.Proofs.Scanner.DigitRuns
import Lexis.Proofs.Scanner.RoundTrip
import Lexis.Token.Record

/-!
# Printed numbers read back

A number that is read from a run of digits is not always the integer that the run stands for, and
its text form shows neither: it has the digits of the shortest decimal, filled up with zeros. Still
the text form is scanned as the same number, and the literal in JSON is read as it. So
different numbers are printed differently, and printing and scanning may go on for ever.
-/

namespace Lexis

/-- The number is read from some run of digits. -/
def FromDigits (v : Binary64) : Prop :=
  ∃ (s : Scanner) (digits rest : List Char),
    s.DigitsAhead digits rest ∧ s.readNumber.1 = .ok (.number v)

/-- The text form of the number is `shown`, and `literal` is written for it in JSON. -/
structure PrintsAs (v : Binary64) (shown : List Char) (literal : Json.NumberText) : Prop where
  /-- The number is shown by this text. -/
  display : (Token.number v).display = String.ofList shown
  /-- The text form is not empty. -/
  nonempty : shown ≠ []
  /-- The text form has digits only. -/
  inside : ∀ c ∈ shown, Text.isDigit c = true
  /-- The text form begins with a zero only if it is a single zero. -/
  leading : shown.head? = some '0' → shown = ['0']
  /-- The text form is scanned as the number and nothing else. -/
  scanned : tokenize (String.ofList shown) = .ok [.number v]
  /-- The payload of a record is the number. -/
  payload : (Token.number v).payload = .double v
  /-- The literal is written for it in every layout and at every level. -/
  written : ∀ (layout : Json.Layout) (level : ℕ),
    Json.write layout level (Token.number v).payload = literal.text
  /-- The literal has digits, and no needless zero in front. -/
  valid : literal.Valid
  /-- Below `10 ^ 16` the number is written in full, with a zero behind the point. -/
  inFull : v.magnitude < 10 ^ 16 → literal.fraction = ['0'] ∧ literal.power = none
  /-- From there on there is one digit before the point, and an exponent. -/
  withExponent : 10 ^ 16 ≤ v.magnitude →
    literal.whole.length = 1 ∧ ∃ power : ℤ, literal.power = some power ∧ 16 ≤ power
  /-- A reader finds in the literal the number that it stands for. -/
  read : Json.read? literal.text = some (.number false literal.value)
  /-- A reader finds the same number in a record. -/
  record : ∀ (layout : Json.Layout) (start : Location), layout.AddsBlanks →
    Json.read? (Json.write layout 0 ((Token.number v).record start)) =
      some (.object [("kind", .text "number"), ("value", .number false literal.value),
        ("line", .number false start.line.toNat), ("column", .number false start.column.toNat)])
  /-- No other double is read from the literal. -/
  nearest : ∀ y : Binary64, y.ReadFrom false literal.value ↔ y = v

/-- Prints tokens with blanks between them and scans the text, the given number of times. -/
def printScan : ℕ → List Token → Except LexError (List Token)
  | 0, tokens => .ok tokens
  | rounds + 1, tokens =>
    (tokenize (" ".intercalate (tokens.map Token.display))).bind (printScan rounds)

/-- A finite number that is read from a run of digits is an integer. -/
theorem FromDigits.isInteger {v : Binary64} (h : FromDigits v) (hfinite : v.isFinite = true) :
    v.IsInteger := by
  obtain ⟨s, digits, rest, hahead, hread⟩ := h
  rw [hahead.readNumber_eq] at hread
  obtain rfl : .ofNat (Nat.ofDigitChars 10 digits 0) = v := by simpa using hread
  refine (Binary64.isInteger_or_infinity _).resolve_right fun hinfinite => ?_
  rw [hinfinite] at hfinite
  exact absurd hfinite (by decide)

/-- The text form of an integer is scanned as the integer. -/
theorem tokenize_display {v : Binary64} (h : v.IsInteger) :
    tokenize (Token.number v).display = .ok [.number v] := by
  have hspaced := tokenize_spaced "" [(.number v, "")] (by simp [Text.IsSpace])
    (by simpa [Text.IsSpace, Token.WellFormed] using h) (List.isChain_singleton _)
  simpa [spaced] using hspaced

/-- Every integer is printed as a run of digits and as a literal. -/
theorem exists_printsAs {v : Binary64} (h : v.IsInteger) :
    ∃ shown literal, PrintsAs v shown literal := by
  obtain ⟨shown, hdisplay, hnonempty, hinside, hleading⟩ := h.exists_shown
  obtain ⟨literal, hliteral⟩ := h.exists_literal
  have hpayload : (Token.number v).payload = .double v := by simp [Token.payload, h.finite]
  have hread := Binary64.readFrom_shortest .toEven h.finite
  rw [h.unsigned, ← hliteral.value] at hread
  have hmeaning : (Json.double v).meaning = .number false literal.value := by
    rw [Json.meaning, h.unsigned, hliteral.value]
  refine ⟨shown, literal, ?_⟩
  constructor
  case display => exact hdisplay
  case nonempty => exact hnonempty
  case inside => exact hinside
  case leading => exact hleading
  case scanned =>
    rw [← hdisplay]
    exact tokenize_display h
  case payload => exact hpayload
  case written =>
    intro layout level
    rw [hpayload, Json.write, hliteral.written]
  case valid => exact hliteral.valid
  case inFull => exact hliteral.inFull
  case withExponent => exact hliteral.withExponent
  case read =>
    have hdocument := Json.read?_write Json.Layout.addsBlanks_compact (.double v) h.finite
    rwa [Json.write, hliteral.written, hmeaning] at hdocument
  case record =>
    intro layout start hlayout
    rw [Json.read?_write hlayout]
    · simp [Token.record, hpayload, Json.meaning, Json.memberMeanings, h.unsigned, hliteral.value,
        Token.kind, TokenKind.word]
    · rw [Token.record, hpayload]
      exact ⟨trivial, h.finite, trivial, trivial, trivial⟩
  case nearest =>
    intro y
    constructor
    · exact fun hy => hy.unique hread
    · rintro rfl
      exact hread

/-- Integers that are written alike in JSON are the same. -/
theorem eq_of_written {v w : Binary64} (hv : v.IsInteger) (hw : w.IsInteger)
    {layout layout' : Json.Layout} {level level' : ℕ}
    (h : Json.write layout level (Token.number v).payload =
      Json.write layout' level' (Token.number w).payload) : v = w := by
  obtain ⟨shown, literal, hprints⟩ := exists_printsAs hv
  obtain ⟨shown', literal', hprints'⟩ := exists_printsAs hw
  rw [hprints.written, hprints'.written] at h
  have hread := hprints.read
  rw [h, hprints'.read] at hread
  obtain ⟨-, hvalue⟩ := Json.Value.number.inj (Option.some.inj hread)
  refine (hprints'.nearest v).mp ?_
  rw [hvalue]
  exact (hprints.nearest v).mpr rfl

/-- An integer outlasts any number of rounds. -/
theorem printScan_number {v : Binary64} (h : v.IsInteger) (rounds : ℕ) :
    printScan rounds [.number v] = .ok [.number v] := by
  induction rounds with
  | zero => rfl
  | succ rounds ih =>
    have hround : tokenize (" ".intercalate ([Token.number v].map Token.display)) =
        .ok [.number v] := by
      simpa using tokenize_display h
    rw [printScan, hround]
    exact ih

/-- A finite number from a run of digits is shown in full as a run of digits that is scanned as the
number, and written in JSON as a literal whose nearest double it is. Different such numbers have
neither text in common, and no number of rounds of printing and scanning changes one. -/
theorem printed_numbers_read_back {v : Binary64} (h : FromDigits v) (hfinite : v.isFinite = true) :
    (∃ shown literal, PrintsAs v shown literal) ∧
      (∀ w : Binary64, FromDigits w → w.isFinite = true → v ≠ w →
        (Token.number v).display ≠ (Token.number w).display ∧
        ∀ (layout layout' : Json.Layout) (level level' : ℕ),
          Json.write layout level (Token.number v).payload ≠
            Json.write layout' level' (Token.number w).payload) ∧
      ∀ rounds, printScan rounds [.number v] = .ok [.number v] := by
  have hinteger := h.isInteger hfinite
  refine ⟨exists_printsAs hinteger, ?_, printScan_number hinteger⟩
  intro w hw hfinite' hne
  have hinteger' := hw.isInteger hfinite'
  constructor
  · intro hdisplay
    have hscan := tokenize_display hinteger
    rw [hdisplay, tokenize_display hinteger'] at hscan
    obtain rfl : w = v := by simpa using hscan
    exact hne rfl
  · intro layout layout' level level' hwritten
    exact hne (eq_of_written hinteger hinteger' hwritten)

/-- The text form of `10 ^ 23` is a power of ten, though no double is. -/
theorem printed_numbers_read_back_power :
    ∃ v, FromDigits v ∧ v.isFinite = true ∧ v.magnitude ≠ 10 ^ 23 ∧
      (Token.number v).display = "100000000000000000000000" ∧
      ∀ rounds, printScan rounds [.number v] = .ok [.number v] := by
  have hdigits : (Scanner.ofSource "100000000000000000000000").DigitsAhead
      "100000000000000000000000".toList [] := ⟨rfl, by decide, by decide⟩
  have hfrom : FromDigits (.ofNat (10 ^ 23)) := ⟨_, _, _, hdigits, by
    rw [hdigits.readNumber_eq]
    rfl⟩
  have hfinite : (Binary64.ofNat (10 ^ 23)).isFinite = true := by decide +kernel
  refine ⟨_, hfrom, hfinite, ?_, by decide +kernel, (printed_numbers_read_back hfrom hfinite).2.2⟩
  have hfields : (Binary64.ofNat (10 ^ 23)).significand = 5960464477539062 ∧
      (Binary64.ofNat (10 ^ 23)).exponent = 24 := by decide +kernel
  rw [Binary64.magnitude, hfields.1, hfields.2]
  norm_num

end Lexis
