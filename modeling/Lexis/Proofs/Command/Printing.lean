import Lexis.Proofs.Command.Verdicts

/-!
# What printing the tokens of an input writes

The tokens of an input are printed once all of them are known. So an input that cannot be read or
has an error leaves no output, wherever the error lies, and of any other the complete output is
written as far as the writer has room for it. Which failure a full writer causes depends on the
format, and for an array on whether the array itself or the line feed behind it does not fit.
-/

namespace Lexis

section

variable {files : Files} {stdin : StandardInput} {input : Input} {source : String}

/-- Scanning an input that can be read gives the tokens of its text, each with its place. -/
theorem scan_of_tokenize {tokens : List Token} (htext : (input.read files stdin).text = .ok source)
    (htokens : tokenize source = .ok tokens) :
    ∃ places, (input.scan files stdin).tokens = .ok places ∧ places.map Prod.snd = tokens := by
  have halike := sourceConsumedAlike source
  cases hscan : (input.scan files stdin).tokens with
  | ok places =>
    have hfound := (halike.scan files stdin input htext places hscan).1
    rw [htokens] at hfound
    exact ⟨places, rfl, (Except.ok.inj hfound).symm⟩
  | error failure =>
    obtain ⟨error, herror, -⟩ := (halike.scanError files stdin input htext failure).mp hscan
    rw [htokens] at herror
    cases herror

/-- Scanning an input that can be read fails for the first error in its text. -/
theorem scan_of_error {error : LexError} (htext : (input.read files stdin).text = .ok source)
    (herror : tokenize source = .error error) :
    (input.scan files stdin).tokens = .error (.scan input.label error) :=
  ((sourceConsumedAlike source).scanError files stdin input htext _).mpr ⟨error, herror, rfl⟩

/-- An input that cannot be read cannot be scanned. -/
theorem scan_of_unread {failure : Failure}
    (htext : (input.read files stdin).text = .error failure) :
    (input.scan files stdin).tokens = .error failure := by
  rw [Input.scan, htext]

end

namespace TokensRequest

variable {files : Files} {stdin : StandardInput} {request : TokensRequest}

/-- Where scanning fails, nothing is written, whatever room there is, and the result is the
failure. -/
theorem deliver_of_failure {failure : Failure}
    (h : (request.input.scan files stdin).tokens = .error failure) (room : Option ℕ) :
    ((request.report files stdin).deliver room).output = [] ∧
      ((request.report files stdin).deliver room).result = .error failure := by
  have hreport : request.report files stdin =
      .ofEvents (request.input.scan files stdin).events (.error failure) := by rw [report, h]
  have hbytes : (request.report files stdin).bytes = [] := by
    rw [hreport, Report.bytes_ofEvents]
  have hnone := Report.deliver_none (request.report files stdin)
  have hsame : (request.report files stdin).deliver room =
      (request.report files stdin).deliver none := by
    cases room with
    | none => rfl
    | some room => exact Report.deliver_of_le (by simp [hbytes])
  rw [hsame, hnone.1, hnone.2, hbytes, hreport]
  exact ⟨rfl, rfl⟩

/-- The text that is written for located tokens. -/
def outputText (request : TokensRequest) (places : List (Location × Token)) : String :=
  match request.format with
  | .text => String.join (places.map fun (start, token) => line request.positions start token)
  | .json => (Json.array (places.map fun (start, token) => token.record start)).pretty ++ "\n"

/-- Lines that are written one after the other make up their text. -/
theorem bytes_textWrites (positions : Bool) (places : List (Location × Token)) :
    (textWrites positions places).flatMap Action.bytes =
      utf8 (String.join (places.map fun (start, token) => line positions start token)) := by
  induction places with
  | nil => rfl
  | cons place places ih =>
    rw [List.map_cons, String.join_cons, utf8_append, ← ih]
    rfl

/-- All writes together make up the output text. -/
theorem bytes_writes (request : TokensRequest) (places : List (Location × Token)) :
    (request.writes places).flatMap Action.bytes = utf8 (request.outputText places) := by
  cases hformat : request.format with
  | text => simp only [writes, outputText, hformat, bytes_textWrites]
  | json =>
    simp only [writes, outputText, hformat, jsonWrites, utf8_append, List.flatMap_cons,
      Action.bytes, List.flatMap_nil, List.append_nil]

/-- If the input cannot be read, nothing is written, and the failure to read it is the result. -/
theorem deliver_of_unread (request : TokensRequest) {failure : Failure}
    (htext : (request.input.read files stdin).text = .error failure) (room : Option ℕ) :
    ((request.report files stdin).deliver room).output = [] ∧
      ((request.report files stdin).deliver room).result = .error failure :=
  deliver_of_failure (scan_of_unread htext) room

/-- If the text of the input has an error, nothing is written, and the result tells of it. -/
theorem deliver_of_error (request : TokensRequest) {source : String} {error : LexError}
    (htext : (request.input.read files stdin).text = .ok source)
    (herror : tokenize source = .error error) (room : Option ℕ) :
    ((request.report files stdin).deliver room).output = [] ∧
      ((request.report files stdin).deliver room).result =
        .error (.scan request.input.label error) :=
  deliver_of_failure (scan_of_error htext herror) room

/-- If the text of the input has no error, the result of the report is the number of tokens. -/
theorem result_of_tokens (request : TokensRequest) {source : String} {tokens : List Token}
    (htext : (request.input.read files stdin).text = .ok source)
    (htokens : tokenize source = .ok tokens) :
    (request.report files stdin).result = .ok tokens.length := by
  obtain ⟨places, hscan, hplaces⟩ := scan_of_tokenize htext htokens
  rw [report_result, hscan, ← hplaces, List.length_map]
  rfl

/-- Where scanning gives tokens, the report writes their output text. -/
theorem bytes_report {places : List (Location × Token)}
    (h : (request.input.scan files stdin).tokens = .ok places) :
    (request.report files stdin).bytes = utf8 (request.outputText places) := by
  simp only [report, h, Report.bytes, List.flatMap_append, Report.flatMap_bytes_map_log,
    List.nil_append, bytes_writes]
  simp [Action.bytes]

/-- A writer that takes everything gets the output text. -/
theorem output_of_tokens {places : List (Location × Token)}
    (h : (request.input.scan files stdin).tokens = .ok places) :
    ((request.report files stdin).deliver none).output = utf8 (request.outputText places) :=
  (Report.deliver_none _).1.trans (bytes_report h)

/-- All writes of text output fail alike. -/
theorem failAlike_report_of_text (hformat : request.format = .text) :
    FailAlike (.device .sinkFull) (request.report files stdin).actions := by
  cases h : (request.input.scan files stdin).tokens with
  | error failure =>
    simp only [report, h]
    exact failAlike_map_log _ _
  | ok places =>
    have hlines : FailAlike (.device .sinkFull) (request.writes places) := by
      intro text onFull hmem
      simp only [writes, hformat, textWrites, List.mem_map] at hmem
      obtain ⟨place, -, hwrite⟩ := hmem
      cases hwrite
      rfl
    simp only [report, h]
    exact ((failAlike_map_log _ _).append hlines).append (failAlike_map_log _ [_])

/-- In JSON output the array fails with a failure of its own, and the line feed behind it as a line
of text does. -/
theorem failsAt_report_of_json (hformat : request.format = .json) {room : ℕ}
    (h : room < (request.report files stdin).bytes.length) :
    FailsAt room (request.report files stdin).actions
      (if room + 1 < (request.report files stdin).bytes.length then .json .sinkFull
        else .device .sinkFull) := by
  cases hscan : (request.input.scan files stdin).tokens with
  | error failure =>
    rw [report, hscan, Report.bytes_ofEvents] at h
    cases h
  | ok places =>
    have hfeed : (utf8 "\n").length = 1 := by decide
    have hlength := congrArg List.length (bytes_report hscan)
    simp only [outputText, hformat, utf8_append, List.length_append, hfeed] at hlength
    rw [hlength] at h ⊢
    simp only [report, hscan, writes, hformat, jsonWrites]
    generalize (Json.array (places.map fun place => place.2.record place.1)).pretty = array at *
    have hlogs := Report.flatMap_bytes_map_log (request.input.scan files stdin).events
    generalize (request.input.scan files stdin).events.map Action.log = logs at *
    split
    · refine ⟨logs, array, _, List.append_assoc _ _ _, ?_, ?_⟩
      · simp [hlogs]
      · rw [hlogs, List.length_nil]
        omega
    · refine ⟨logs ++ [.write array (.json .sinkFull)], "\n", _, by simp; rfl, ?_, ?_⟩
      · simp [hlogs, Action.bytes]
        omega
      · simp [hlogs, Action.bytes, hfeed]
        omega

end TokensRequest

/-- What becomes of a request to print the tokens of an input, whoever takes the output. -/
structure PrintAccounts (files : Files) (stdin : StandardInput) (request : TokensRequest) :
    Prop where
  /-- If the input cannot be read, nothing is written, and the failure to read it is the result. -/
  unread : ∀ failure, (request.input.read files stdin).text = .error failure → ∀ room,
    ((request.report files stdin).deliver room).output = [] ∧
      ((request.report files stdin).deliver room).result = .error failure
  /-- If its text has an error, wherever that lies, nothing is written, and the result tells of
  it. -/
  rejected : ∀ source error, (request.input.read files stdin).text = .ok source →
    tokenize source = .error error → ∀ room,
    ((request.report files stdin).deliver room).output = [] ∧
      ((request.report files stdin).deliver room).result =
        .error (.scan request.input.label error)
  /-- If the text has no error and the writer takes everything, the result is the number of
  tokens. -/
  complete : ∀ source tokens, (request.input.read files stdin).text = .ok source →
    tokenize source = .ok tokens →
    ((request.report files stdin).deliver none).result = .ok tokens.length
  /-- The complete output is that of the tokens, each with its place. -/
  written : ∀ source tokens, (request.input.read files stdin).text = .ok source →
    tokenize source = .ok tokens → ∃ places,
      (request.input.scan files stdin).tokens = .ok places ∧ places.map Prod.snd = tokens ∧
      ((request.report files stdin).deliver none).output = utf8 (request.outputText places)
  /-- A writer with room for the complete output changes nothing. -/
  roomy : ∀ room, ((request.report files stdin).deliver none).output.length ≤ room →
    ((request.report files stdin).deliver (some room)).output =
        ((request.report files stdin).deliver none).output ∧
      ((request.report files stdin).deliver (some room)).result =
        ((request.report files stdin).deliver none).result
  /-- A writer with less room is filled. -/
  full : ∀ room, room < ((request.report files stdin).deliver none).output.length →
    ((request.report files stdin).deliver (some room)).output =
      ((request.report files stdin).deliver none).output.take room
  /-- Lines of text fail as the device does. -/
  textFull : request.format = .text → ∀ room,
    room < ((request.report files stdin).deliver none).output.length →
    ((request.report files stdin).deliver (some room)).result = .error (.device .sinkFull)
  /-- The line feed at the end of an array fails like a line of text. -/
  lineFeedFull : request.format = .json → ∀ room,
    room + 1 = ((request.report files stdin).deliver none).output.length →
    ((request.report files stdin).deliver (some room)).result = .error (.device .sinkFull)
  /-- The array itself fails in a way of its own. -/
  arrayFull : request.format = .json → ∀ room,
    room + 1 < ((request.report files stdin).deliver none).output.length →
    ((request.report files stdin).deliver (some room)).result = .error (.json .sinkFull)
  /-- In which pieces the texts are written does not matter. -/
  pieces : ∀ fine, Finer fine (request.report files stdin).actions → ∀ room,
    Report.deliver room { request.report files stdin with actions := fine } =
      (request.report files stdin).deliver room

/-- Printing the tokens of an input writes the complete output, as much of it as the writer has
room for, or, if the input cannot be read or has an error, nothing at all. -/
theorem print_accounts (files : Files) (stdin : StandardInput) (request : TokensRequest) :
    PrintAccounts files stdin request := by
  obtain ⟨houtput, hresult⟩ := (request.report files stdin).deliver_none
  constructor
  case unread =>
    intro failure htext
    exact request.deliver_of_unread htext
  case rejected =>
    intro source error htext herror
    exact request.deliver_of_error htext herror
  case complete =>
    intro source tokens htext htokens
    rw [hresult]
    exact request.result_of_tokens htext htokens
  case written =>
    intro source tokens htext htokens
    obtain ⟨places, hscan, hplaces⟩ := scan_of_tokenize htext htokens
    exact ⟨places, hscan, hplaces, TokensRequest.output_of_tokens hscan⟩
  case roomy =>
    intro room hroom
    rw [houtput] at hroom
    rw [Report.deliver_of_le hroom]
    exact ⟨rfl, rfl⟩
  case full =>
    intro room hroom
    rw [houtput] at hroom ⊢
    exact (Report.deliver_of_lt hroom).1
  case textFull =>
    intro hformat room hroom
    rw [houtput] at hroom
    have halike : FailAlike (.device .sinkFull) (request.report files stdin).actions :=
      TokensRequest.failAlike_report_of_text hformat
    exact (Report.deliver_of_lt_of_failAlike hroom halike).2
  case lineFeedFull =>
    intro hformat room hroom
    rw [houtput] at hroom
    have hfits : room < (request.report files stdin).bytes.length := by omega
    have hfails := TokensRequest.failsAt_report_of_json hformat hfits
    rw [if_neg (by omega)] at hfails
    exact (Report.deliver_of_failsAt hfails).2
  case arrayFull =>
    intro hformat room hroom
    rw [houtput] at hroom
    have hfits : room < (request.report files stdin).bytes.length := by omega
    have hfails := TokensRequest.failsAt_report_of_json hformat hfits
    rw [if_pos hroom] at hfails
    exact (Report.deliver_of_failsAt hfails).2
  case pieces => exact fun fine hfine room => Report.deliver_of_finer hfine room

end Lexis
