import Mathlib.Data.List.Basic
import Lexis.Proofs.Command.Printing
import Lexis.Proofs.Scanner.Rejection

/-!
# The input route does not matter

The bytes of a text, in a file or from standard input, are decoded as the text and nothing else is
done to them. So printing the tokens of a text comes to the same whichever way the text comes: only
the log and the label in a lexical error tell the routes apart. Offsets count the characters of the
text by their bytes, and these are the bytes that were read. Bytes that are no text come to nothing.
-/

namespace Lexis

/-- Two deliveries come to the same, but for what the log is told. -/
structure SameDelivery {α : Type} (d d' : Delivery α) : Prop where
  /-- The outputs are the same. -/
  output : d.output = d'.output
  /-- The result is the same. -/
  result : d.result = d'.result

/-- Says whether an action writes. -/
def Action.isWrite : Action → Bool
  | log _ => false
  | write _ _ => true

namespace Report

variable {α : Type}

/-- What the log is told does not matter to the writer. -/
theorem sameDelivery_filter (result : Except Failure α) (room : Option ℕ) (actions : List Action) :
    SameDelivery (deliverActions result room actions)
      (deliverActions result room (actions.filter Action.isWrite)) := by
  induction actions generalizing room with
  | nil => exact ⟨rfl, rfl⟩
  | cons action later ih =>
    cases action with
    | log event => exact ⟨(ih room).output, (ih room).result⟩
    | write text onFull =>
      rw [List.filter_cons_of_pos rfl]
      cases room with
      | none => exact ⟨congrArg (utf8 text ++ ·) (ih none).output, (ih none).result⟩
      | some room =>
        simp only [deliverActions]
        split
        · exact ⟨congrArg (utf8 text ++ ·) (ih _).output, (ih _).result⟩
        · exact ⟨rfl, rfl⟩

/-- Reports with the same writes and the same result come to the same delivery. -/
theorem sameDelivery_of_writes {r r' : Report α} (hresult : r.result = r'.result)
    (hwrites : r.actions.filter Action.isWrite = r'.actions.filter Action.isWrite)
    (room : Option ℕ) : SameDelivery (r.deliver room) (r'.deliver room) := by
  have hsame := sameDelivery_filter r.result room r.actions
  have hsame' := sameDelivery_filter r'.result room r'.actions
  rw [hresult, hwrites] at hsame
  rw [deliver, deliver, hresult]
  exact ⟨hsame.output.trans hsame'.output.symm, hsame.result.trans hsame'.result.symm⟩

end Report

/-- The input has the bytes `content`, as the file at a path or as what standard input gives, and is
known by the label. -/
inductive CarriesBytes (content : ByteArray) : Files → StandardInput → Input → String → Prop
  /-- The file holds the bytes, and its path is the label. -/
  | file {files : Files} {path : String} (stdin : StandardInput) (h : files path = .file content) :
      CarriesBytes content files stdin (.file path) path
  /-- Standard input gives them. -/
  | standardInput (files : Files) :
      CarriesBytes content files (.bytes content) .standardInput "<stdin>"

/-- The input gives the text by one of the three routes, and is known by the label. -/
inductive Carries (text : String) : Files → StandardInput → Input → String → Prop
  /-- A text on the command line is the text itself. -/
  | inline (files : Files) (stdin : StandardInput) :
      Carries text files stdin (.inline text) "<expr>"
  /-- An input with bytes has those of the text. -/
  | bytes {files : Files} {stdin : StandardInput} {input : Input} {label : String}
      (h : CarriesBytes text.toUTF8 files stdin input label) : Carries text files stdin input label

/-- The bytes of the text stand in `content` at the offset. -/
def StandsAt (content : ByteArray) (offset : ℕ) (text : List Char) : Prop :=
  ∃ before after : List UInt8,
    content.data.toList = before ++ utf8 (String.ofList text) ++ after ∧ before.length = offset

/-- The offset of an error is that of the text which it concerns. -/
def LexError.PointsInto (content : ByteArray) : LexError → Prop
  | unterminatedString location => StandsAt content location.offset [Text.quoteMark]
  | invalidToken text location => StandsAt content location.offset text.toList
  | prematureEnd _ => False

/-- What is printed for an input in a format, with places or without, to a writer with the given
room. -/
def printed (files : Files) (stdin : StandardInput) (input : Input) (format : OutputFormat)
    (positions : Bool) (room : Option ℕ) : Delivery ℕ :=
  (TokensRequest.report files stdin ⟨input, format, positions⟩).deliver room

/-- Nothing is written, and the result is the failure. -/
structure FailsSilently (d : Delivery ℕ) (failure : Failure) : Prop where
  /-- There is no output. -/
  output : d.output = []
  /-- The failure is the result. -/
  result : d.result = .error failure

/-- Two inputs that give one text, each known by a label, as far as printing its tokens can tell. -/
structure RoutesAgree (text : String) (files files' : Files) (stdin stdin' : StandardInput)
    (input input' : Input) (label label' : String) (format : OutputFormat) (positions : Bool) :
    Prop where
  /-- The result for a text that can be cut into tokens is their number. -/
  counted : ∀ tokens, tokenize text = .ok tokens →
    (printed files stdin input format positions none).result = .ok tokens.length
  /-- Whoever takes the output, it is the same then, and so is the result. -/
  accepted : ∀ tokens, tokenize text = .ok tokens → ∀ room,
    SameDelivery (printed files stdin input format positions room)
      (printed files' stdin' input' format positions room)
  /-- For any other text nothing is written, and the results are one error with two labels. -/
  rejected : ∀ error, tokenize text = .error error → ∀ room,
    FailsSilently (printed files stdin input format positions room) (.scan label error) ∧
      FailsSilently (printed files' stdin' input' format positions room) (.scan label' error)
  /-- The tokens are found at the same places. -/
  places : ∀ places, (input.scan files stdin).tokens = .ok places →
    (input'.scan files' stdin').tokens = .ok places
  /-- At the offset of a place stand the bytes of a text that spells the token. -/
  spelled : ∀ places, (input.scan files stdin).tokens = .ok places → ∀ place ∈ places,
    ∃ text', StandsAt text.toUTF8 place.1.offset text' ∧ Spells text' place.2
  /-- At the offset of an error stand the bytes of the text that it concerns. -/
  error : ∀ error, tokenize text = .error error → error.PointsInto text.toUTF8

section

variable {text : String} {files files' : Files} {stdin stdin' : StandardInput}
  {input input' : Input} {label label' : String}

/-- The bytes of a text are decoded as the text. -/
theorem decodeText_toUTF8 (text : String) : decodeText text.toUTF8 = .ok text := by
  simp only [decodeText, String.fromUTF8?, String.toUTF8_eq_toByteArray, dif_pos text.isValidUTF8]
  rfl

/-- An input with bytes gives what they are decoded as. -/
theorem CarriesBytes.text_eq {content : ByteArray}
    (h : CarriesBytes content files stdin input label) :
    (input.read files stdin).text = decodeText content := by
  cases h with
  | file _ hfile => simp only [Input.read, readSource, hfile]
  | standardInput => rfl

/-- By each route the text arrives as it is. -/
theorem Carries.text_eq (h : Carries text files stdin input label) :
    (input.read files stdin).text = .ok text := by
  cases h with
  | inline => rfl
  | bytes hbytes => exact hbytes.text_eq.trans (decodeText_toUTF8 text)

/-- The label of an input is the one that it is known by. -/
theorem Carries.label_eq (h : Carries text files stdin input label) : input.label = label := by
  cases h with
  | inline => rfl
  | bytes hbytes => cases hbytes <;> rfl

/-- Bytes that are no text are not decoded. -/
theorem decodeText_of_not_isValidUTF8 {content : ByteArray} (h : ¬content.IsValidUTF8) :
    decodeText content = .error (.device .notText) := by
  simp [decodeText, String.fromUTF8?, h]

/-- A text behind another one stands at the offset of the place between them. -/
theorem standsAt_behind {front spelled rest : List Char}
    (h : text.toList = front ++ spelled ++ rest) :
    StandsAt text.toUTF8 (Location.behind front).offset spelled := by
  refine ⟨utf8 (String.ofList front), utf8 (String.ofList rest), ?_, ?_⟩
  · rw [← utf8_append, ← utf8_append, ← String.ofList_append, ← String.ofList_append, ← h,
      String.ofList_toList]
    rfl
  · exact Array.length_toList

/-- Each token of an input starts at the offset where the bytes of the text stand that spells it. -/
theorem exists_standsAt_of_scan (htext : (input.read files stdin).text = .ok text)
    {places : List (Location × Token)} (hplaces : (input.scan files stdin).tokens = .ok places)
    {place : Location × Token} (hplace : place ∈ places) :
    ∃ spelled, StandsAt text.toUTF8 place.1.offset spelled ∧ Spells spelled place.2 := by
  have hfound := ((sourceConsumedAlike text).scan files stdin input htext places hplaces).2
  obtain ⟨i, hi, rfl⟩ := List.getElem_of_mem hplace
  obtain ⟨front, gap, spelled, rest, hsource, -, -, hspells, hstart⟩ := (hfound i hi).2
  exact ⟨spelled, hstart ▸ standsAt_behind hsource, hspells⟩

/-- The error of a text lies at the bytes that it concerns. -/
theorem pointsInto_of_tokenize {error : LexError} (h : tokenize text = .error error) :
    error.PointsInto text.toUTF8 := by
  rcases (tokenize_eq_error_iff text error).mp h with
    ⟨front, ⟨body, hscanned, -⟩, rfl⟩ | ⟨front, run, ⟨first, more, rest, rfl, hscanned, -⟩, rfl⟩
  · have hsource : text.toList = front ++ [Text.quoteMark] ++ body := by simp [hscanned.1]
    exact standsAt_behind hsource
  · have hsource : text.toList = front ++ (first :: more) ++ rest := by simp [hscanned.1]
    rw [LexError.PointsInto, String.toList_ofList]
    exact standsAt_behind hsource

/-- The writes for tokens are writes. -/
theorem TokensRequest.isWrite_of_mem_writes {request : TokensRequest}
    {places : List (Location × Token)} {action : Action} (h : action ∈ request.writes places) :
    action.isWrite = true := by
  cases hformat : request.format with
  | text =>
    simp only [writes, hformat, textWrites, List.mem_map] at h
    obtain ⟨place, -, rfl⟩ := h
    rfl
  | json =>
    simp only [writes, hformat, jsonWrites, List.mem_cons, List.not_mem_nil, or_false] at h
    rcases h with rfl | rfl <;> rfl

/-- Where scanning gives tokens, the report writes these only. -/
theorem TokensRequest.filter_report {request : TokensRequest} {places : List (Location × Token)}
    (h : (request.input.scan files stdin).tokens = .ok places) :
    (request.report files stdin).actions.filter Action.isWrite = request.writes places := by
  have hlogs (events : List Event) : (events.map Action.log).filter Action.isWrite = [] := by
    simp [Action.isWrite]
  have hwrites : (request.writes places).filter Action.isWrite = request.writes places :=
    List.filter_eq_self.mpr fun _ => isWrite_of_mem_writes
  have hlast := hlogs [.sourceScanned request.input.label places.length]
  simp only [report, h, List.filter_append, hlogs, hwrites, List.nil_append]
  rw [← List.map_singleton, hlast, List.append_nil]

/-- Scanning a text gives the same places by all routes. -/
theorem scan_eq_located (htext : (input.read files stdin).text = .ok text) :
    (input.scan files stdin).tokens =
      (Scanner.ofSource text).located.answer.mapError (.scan input.label) := by
  rw [Input.scan, htext]

/-- Printing the tokens of a text with an error writes nothing by any route, and tells of the error
with the label of the route. -/
theorem failsSilently_of_error (h : Carries text files stdin input label) {error : LexError}
    (herror : tokenize text = .error error) (format : OutputFormat) (positions : Bool)
    (room : Option ℕ) :
    FailsSilently (printed files stdin input format positions room) (.scan label error) := by
  obtain ⟨houtput, hresult⟩ :=
    TokensRequest.deliver_of_error ⟨input, format, positions⟩ h.text_eq herror room
  rw [h.label_eq] at hresult
  exact ⟨houtput, hresult⟩

/-- Inputs that give one text agree. -/
theorem routesAgree (h : Carries text files stdin input label)
    (h' : Carries text files' stdin' input' label') (format : OutputFormat) (positions : Bool) :
    RoutesAgree text files files' stdin stdin' input input' label label' format positions := by
  have htext := h.text_eq
  have htext' := h'.text_eq
  have hplaces : ∀ places, (input.scan files stdin).tokens = .ok places →
      (input'.scan files' stdin').tokens = .ok places := by
    intro places hscan
    rw [scan_eq_located htext] at hscan
    rw [scan_eq_located htext']
    cases hlocated : (Scanner.ofSource text).located.answer with
    | error error => simp [hlocated, Except.mapError] at hscan
    | ok found => simpa [hlocated, Except.mapError] using hscan
  constructor
  case counted =>
    intro tokens htokens
    exact (Report.deliver_none _).2.trans
      (TokensRequest.result_of_tokens ⟨input, format, positions⟩ htext htokens)
  case accepted =>
    intro tokens htokens room
    obtain ⟨places, hscan, -⟩ := scan_of_tokenize htext htokens
    have hscan' := hplaces places hscan
    refine Report.sameDelivery_of_writes ?_ ?_ room
    · rw [TokensRequest.report_result, TokensRequest.report_result, hscan, hscan']
    · rw [TokensRequest.filter_report hscan, TokensRequest.filter_report hscan']
      rfl
  case rejected =>
    intro error herror room
    exact ⟨failsSilently_of_error h herror format positions room,
      failsSilently_of_error h' herror format positions room⟩
  case places => exact hplaces
  case spelled =>
    intro places hscan place hplace
    exact exists_standsAt_of_scan htext hscan hplace
  case error => exact fun error herror => pointsInto_of_tokenize herror

/-- Bytes that are no text come to one failure. -/
theorem failsSilently_of_not_isValidUTF8 {content : ByteArray} (hinvalid : ¬content.IsValidUTF8)
    (h : CarriesBytes content files stdin input label) (format : OutputFormat) (positions : Bool)
    (room : Option ℕ) :
    FailsSilently (printed files stdin input format positions room) (.device .notText) := by
  have hread := h.text_eq.trans (decodeText_of_not_isValidUTF8 hinvalid)
  obtain ⟨houtput, hresult⟩ :=
    TokensRequest.deliver_of_unread ⟨input, format, positions⟩ hread room
  exact ⟨houtput, hresult⟩

end

/-- Whether a text is given on the command line, lies in a file or comes from standard input,
printing its tokens comes to the same, with the label of the route in an error, and the places index
the bytes of the text. Bytes that are no text fail alike by both routes that have bytes, and
nothing is written. -/
theorem input_route_does_not_matter (format : OutputFormat) (positions : Bool) :
    (∀ (text : String) (files files' : Files) (stdin stdin' : StandardInput)
      (input input' : Input) (label label' : String),
      Carries text files stdin input label → Carries text files' stdin' input' label' →
      RoutesAgree text files files' stdin stdin' input input' label label' format positions) ∧
    ∀ (content : ByteArray) (files : Files) (stdin : StandardInput) (input : Input)
      (label : String), ¬content.IsValidUTF8 → CarriesBytes content files stdin input label →
      ∀ room, FailsSilently (printed files stdin input format positions room)
        (.device .notText) := by
  constructor
  · intro text files files' stdin stdin' input input' label label' h h'
    exact routesAgree h h' format positions
  · intro content files stdin input label hinvalid h room
    exact failsSilently_of_not_isValidUTF8 hinvalid h format positions room

/-- A byte order mark, a carriage return and a null character come through, and are counted. -/
theorem input_route_does_not_matter_untranslated :
    ∃ places,
      ((Input.file "a.ml").scan (fun _ => .file "\ufeff x\r\n\x00 12".toUTF8) .empty).tokens =
        .ok places ∧
      places.map (fun place => place.1.offset) = [0, 4, 7, 9] ∧
      FailsSilently (printed (fun _ => .missing) (.bytes ⟨#[0xff]⟩) .standardInput .text true none)
        (.device .notText) := by
  obtain ⟨hroutes, hbytes⟩ := input_route_does_not_matter .text true
  have hinline : ((Input.inline "\ufeff x\r\n\x00 12").scan (fun _ => .missing) .empty).tokens =
      .ok [(⟨0, 1, 1⟩, .symbol '\ufeff'), (⟨4, 1, 3⟩, .name "x"), (⟨7, 2, 1⟩, .symbol '\x00'),
        (⟨9, 2, 3⟩, .number (.ofNat 12))] := by
    decide +kernel
  have hfile := (hroutes _ _ (fun _ => .file "\ufeff x\r\n\x00 12".toUTF8) _ .empty _
    (.file "a.ml") _ _ (.inline _ _) (.bytes (.file _ rfl))).places _ hinline
  have hinvalid : ¬(ByteArray.mk #[0xff]).IsValidUTF8 := by decide +kernel
  exact ⟨_, hfile, rfl, hbytes _ _ _ _ _ hinvalid (.standardInput _) none⟩

end Lexis
