import Lexis.Proofs.Command.TextOutput
import Lexis.Proofs.Json.ReadBack

/-!
# JSON output is faithful

The array that is written for the tokens of a source is a document, whatever the tokens hold, and a
reader finds in it one record for each of them: the kind, the payload, the line and the column. A
number is found as a number that is read as the same double and no other, unless it is not finite.
So the output tells apart all tokens that a scanner can produce.
-/

namespace Lexis

namespace Token

/-- What a reader finds as the payload of a token. -/
def Carries : Token → Json.Value → Prop
  | string text, value => value = .text text
  | name text, value => value = .text text
  | symbol char, value => value = .text (String.singleton char)
  | number x, value =>
    if x.isFinite then
      ∃ negative magnitude, value = .number negative magnitude ∧
        ∀ y : Binary64, y.ReadFrom negative magnitude ↔ y = x
    else value = .text (if x.isNaN then "NaN" else if x.isNegative then "-inf" else "inf")

/-- The payload of a token never holds a double that cannot be written. -/
theorem finite_payload (token : Token) : token.payload.Finite := by
  cases token with
  | number x =>
    simp only [payload]
    split
    · assumption
    · trivial
  | _ => trivial

/-- A reader finds the payload in what is written for it. -/
theorem carries_meaning (token : Token) : token.Carries token.payload.meaning := by
  cases token with
  | number x =>
    simp only [Carries, payload]
    split
    · next hfinite =>
      have hread := Binary64.readFrom_shortest .toEven hfinite
      refine ⟨_, _, rfl, fun y => ⟨fun hy => hy.unique hread, ?_⟩⟩
      rintro rfl
      exact hread
    · next hfinite =>
      simp only [Json.meaning, NumeralStyle.write]
      by_cases hnan : x.isNaN = true
      · simp [hnan]
      · have hinfinite : x.isInfinite = true := by
          simp [Binary64.isFinite, Binary64.isNaN, Binary64.isInfinite] at *
          exact ⟨hfinite, hnan hfinite⟩
        cases hsign : x.isNegative <;> simp [hnan, hinfinite]
  | _ => rfl

/-- What a reader finds is never nothing. -/
theorem Carries.ne_null {token : Token} {value : Json.Value} (h : token.Carries value) :
    value ≠ .null := by
  rintro rfl
  cases token with
  | number x =>
    simp only [Carries] at h
    split at h
    · obtain ⟨_, _, hvalue, -⟩ := h
      cases hvalue
    · cases h
  | _ => cases h

/-- What a reader finds determines a token that a scanner can produce, if the kind is known. -/
theorem Carries.unique {token token' : Token} {value : Json.Value} (h : token.Carries value)
    (h' : token'.Carries value) (hkind : token.kind = token'.kind) (hp : token.Produced)
    (hp' : token'.Produced) : token = token' := by
  cases token <;> cases token' <;> try cases hkind
  case string text text' =>
    obtain rfl : value = .text text := h
    exact congrArg Token.string (Json.Value.text.inj h')
  case name text text' =>
    obtain rfl : value = .text text := h
    exact congrArg Token.name (Json.Value.text.inj h')
  case symbol char char' =>
    obtain rfl : value = .text (String.singleton char) := h
    have hchars := congrArg String.toList (Json.Value.text.inj h')
    exact congrArg Token.symbol (by simpa using hchars)
  case number x x' =>
    have hinfinity : ∀ {y : Binary64}, (Token.number y).Produced → ¬y.isFinite = true →
        y = .infinity := fun hp hy => hp.number.resolve_left fun hinteger => hy hinteger.finite
    simp only [Carries] at h h'
    split at h <;> split at h'
    · obtain ⟨_, _, rfl, hx⟩ := h
      obtain ⟨_, _, hvalue, hx'⟩ := h'
      obtain ⟨rfl, rfl⟩ := Json.Value.number.inj hvalue
      exact congrArg Token.number ((hx' x).mp ((hx x).mpr rfl))
    · obtain ⟨_, _, rfl, -⟩ := h
      cases h'
    · obtain ⟨_, _, rfl, -⟩ := h'
      cases h
    · next hx hx' => rw [hinfinity hp hx, hinfinity hp' hx']

end Token

/-- What a reader finds for a located token: an object with just these members, in this order. -/
def Records (place : Location × Token) (value : Json.Value) : Prop :=
  ∃ payload, place.2.Carries payload ∧ payload ≠ .null ∧
    value = .object [("kind", .text place.2.kind.word), ("value", payload),
      ("line", .number false place.1.line.toNat), ("column", .number false place.1.column.toNat)]

/-- A record determines a token that a scanner can produce, and its line and column. -/
theorem Records.unique {place place' : Location × Token} {value : Json.Value}
    (h : Records place value) (h' : Records place' value) (hp : place.2.Produced)
    (hp' : place'.2.Produced) :
    place.2 = place'.2 ∧ (place.1.line, place.1.column) = (place'.1.line, place'.1.column) := by
  obtain ⟨payload, hpayload, -, rfl⟩ := h
  obtain ⟨payload', hpayload', -, hvalue⟩ := h'
  simp only [Json.Value.object.injEq, List.cons.injEq, Prod.mk.injEq, Json.Value.text.injEq,
    Json.Value.number.injEq, Nat.cast_inj, true_and, and_true] at hvalue
  obtain ⟨hkind, rfl, hline, hcolumn⟩ := hvalue
  have hkind := TokenKind.word_injective hkind
  exact ⟨hpayload.unique hpayload' hkind hp hp',
    Prod.ext (UInt32.toNat_inj.mp hline) (UInt32.toNat_inj.mp hcolumn)⟩

/-- Records determine a list of tokens that a scanner can produce, and their lines and columns. -/
theorem Records.unique_list {places places' : List (Location × Token)} {values : List Json.Value}
    (h : List.Forall₂ Records places values) (h' : List.Forall₂ Records places' values)
    (hp : ∀ place ∈ places, place.2.Produced) (hp' : ∀ place ∈ places', place.2.Produced) :
    places.map Prod.snd = places'.map Prod.snd ∧ starts places = starts places' := by
  induction h generalizing places' with
  | nil =>
    cases h'
    exact ⟨rfl, rfl⟩
  | @cons place value places values hfirst _ ih =>
    obtain _ | @⟨place', _, places', _, hfirst', hlater'⟩ := h'
    obtain ⟨htoken, hplace⟩ := hfirst.unique hfirst' (hp place (by simp)) (hp' place' (by simp))
    obtain ⟨htokens, hstarts⟩ := ih hlater' (fun p hmem => hp p (List.mem_cons_of_mem _ hmem))
      (fun p hmem => hp' p (List.mem_cons_of_mem _ hmem))
    rw [starts, starts] at hstarts ⊢
    simp only [List.map_cons, htoken, hplace, htokens, hstarts, and_self]

namespace TokensRequest

/-- The array of the records of located tokens. -/
def recordArray (places : List (Location × Token)) : Json :=
  .array (places.map fun (start, token) => token.record start)

/-- All doubles in the array of records are finite. -/
theorem finite_recordArray (places : List (Location × Token)) : (recordArray places).Finite := by
  show Json.ItemsFinite _
  induction places with
  | nil => trivial
  | cons place places ih =>
    exact ⟨⟨trivial, place.2.finite_payload, trivial, trivial, trivial⟩, ih⟩

/-- A reader finds one record for each token in the array of records. -/
theorem records_meaning (places : List (Location × Token)) :
    ∃ values, (recordArray places).meaning = .array values ∧
      List.Forall₂ Records places values := by
  refine ⟨_, rfl, ?_⟩
  induction places with
  | nil => exact .nil
  | cons place places ih =>
    have hcarries := place.2.carries_meaning
    exact .cons ⟨_, hcarries, hcarries.ne_null, rfl⟩ ih

/-- The text of the array of records ends with its closing bracket. -/
theorem getLast?_recordArray (places : List (Location × Token)) :
    (recordArray places).pretty.toList.getLast? = some ']' := by
  rw [Json.pretty, String.toList_ofList, recordArray]
  cases places with
  | nil => rfl
  | cons place places =>
    simp only [List.map_cons, Json.write, ← List.append_assoc, List.getLast?_concat]

/-- Different arrays are written for different lists of tokens that a scanner can produce. -/
theorem places_inj {places places' : List (Location × Token)}
    (h : (recordArray places).pretty = (recordArray places').pretty)
    (hp : ∀ place ∈ places, place.2.Produced) (hp' : ∀ place ∈ places', place.2.Produced) :
    places.map Prod.snd = places'.map Prod.snd ∧ starts places = starts places' := by
  obtain ⟨values, hmeaning, hrecords⟩ := records_meaning places
  obtain ⟨values', hmeaning', hrecords'⟩ := records_meaning places'
  have hread := (Json.read?_pretty _ (finite_recordArray places)).1
  have hread' := (Json.read?_pretty _ (finite_recordArray places')).1
  rw [h, hread', hmeaning, hmeaning'] at hread
  obtain rfl : values' = values := Json.Value.array.inj (Option.some.inj hread)
  exact Records.unique_list hrecords hrecords' hp hp'

end TokensRequest

/-- The array that is written for located tokens is a document with one record for each token, and
one line feed follows it. If two accepted sources give the same array, they have the same tokens,
and these start at the same lines and columns. -/
theorem json_output_faithful :
    (∀ places : List (Location × Token), ∃ (document : String) (values : List Json.Value),
      (TokensRequest.jsonWrites places).flatMap Action.bytes = utf8 (document ++ "\n") ∧
      document.toList.getLast? = some ']' ∧
      Json.read? document.toList = some (.array values) ∧
      List.Forall₂ Records places values) ∧
    ∀ (files files' : Files) (stdin stdin' : StandardInput) (request request' : TokensRequest)
      (source source' : String) (places places' : List (Location × Token)),
      request.format = .json → request'.format = .json →
      (request.input.read files stdin).text = .ok source →
      (request'.input.read files' stdin').text = .ok source' →
      (Scanner.ofSource source).located.answer = .ok places →
      (Scanner.ofSource source').located.answer = .ok places' →
      ((request.report files stdin).deliver none).output =
        ((request'.report files' stdin').deliver none).output →
      tokenize source = .ok (places.map Prod.snd) ∧
      tokenize source' = .ok (places'.map Prod.snd) ∧
      places.map Prod.snd = places'.map Prod.snd ∧ starts places = starts places' := by
  constructor
  · intro places
    obtain ⟨values, hmeaning, hrecords⟩ := TokensRequest.records_meaning places
    have hread := (Json.read?_pretty _ (TokensRequest.finite_recordArray places)).1
    rw [hmeaning] at hread
    refine ⟨_, values, ?_, TokensRequest.getLast?_recordArray places, hread, hrecords⟩
    exact TokensRequest.bytes_writes ⟨.standardInput, .json, true⟩ places
  · intro files files' stdin stdin' request request' source source' places places' hformat hformat'
      htext htext' hplaces hplaces' hsame
    obtain ⟨htokens, hscan, hproduced⟩ := produced_of_scan htext hplaces
    obtain ⟨htokens', hscan', hproduced'⟩ := produced_of_scan htext' hplaces'
    rw [TokensRequest.output_of_tokens hscan, TokensRequest.output_of_tokens hscan', utf8_inj,
      TokensRequest.outputText, TokensRequest.outputText, hformat, hformat'] at hsame
    have harrays := (String.append_left_inj _).mp hsame
    exact ⟨htokens, htokens', TokensRequest.places_inj harrays hproduced hproduced'⟩

/-- A string may hold a control character and a backslash, and the offsets need not be the same. -/
theorem json_output_faithful_escapes :
    ∃ places places',
      (Scanner.ofSource "\"\x01\\\" 12").located.answer = .ok places ∧
      (Scanner.ofSource "\"\x01\\\"\u00a012\n").located.answer = .ok places' ∧
      places.length = 2 ∧ places ≠ places' ∧
      places.map Prod.snd = places'.map Prod.snd ∧ starts places = starts places' := by
  have hplaces : (Scanner.ofSource "\"\x01\\\" 12").located.answer =
      .ok [(⟨0, 1, 1⟩, .string "\x01\\"), (⟨5, 1, 6⟩, .number (.ofNat 12))] := by
    decide +kernel
  have hplaces' : (Scanner.ofSource "\"\x01\\\"\u00a012\n").located.answer =
      .ok [(⟨0, 1, 1⟩, .string "\x01\\"), (⟨6, 1, 6⟩, .number (.ofNat 12))] := by
    decide +kernel
  obtain ⟨-, -, htokens, hstarts⟩ := json_output_faithful.2 (fun _ => .missing)
    (fun _ => .missing) .empty .empty ⟨.inline _, .json, false⟩ ⟨.inline _, .json, true⟩ _ _ _ _ rfl
    rfl rfl rfl hplaces hplaces' (by decide +kernel)
  exact ⟨_, _, hplaces, hplaces', rfl, by decide +kernel, htokens, hstarts⟩

end Lexis
