import Lexis.Proofs.Command.Accounting
import Lexis.Proofs.Number.Numerals

/-!
# The two commands agree

To print the tokens of a file and to check it are two commands that share little: one asks for
located tokens and keeps them, the other asks for items and counts them, and each words its own
failures. For every file both come to the verdict on it, so either tells what the other would.
-/

namespace Lexis

/-- The line about a clean file tells the number of its tokens. -/
theorem clean_line_inj {path : String} {m n : ℕ}
    (h : s!"{path}: ok ({m} tokens)\n" = s!"{path}: ok ({n} tokens)\n") : m = n := by
  have hfront := (String.append_left_inj _).mp h
  exact toString_nat_inj ((String.append_right_inj _).mp hfront)

/-- A file that cannot be read is an unusable input or a failing device. -/
def Failure.ConcernsReading : Failure → Prop
  | .input _ => True
  | .device _ => True
  | _ => False

/-- Whatever prevents a file from being read is an unusable input or a failing device. -/
theorem CannotRead.concernsReading {files : Files} {path : String} {failure : Failure}
    (h : CannotRead files path failure) : failure.ConcernsReading := by
  cases h <;> trivial

/-- The result of checking a single file. -/
def Verdict.singleResult : Verdict → Except Failure CheckSummary
  | clean _ => .ok { passed := 1, failed := 0 }
  | rejected _ => .error (.check 1 1)
  | unread failure => .error failure

/-- Checking a single file that can be read writes the line of the verdict and has its result. -/
theorem checkReport_singleton_of_read {files : Files} {path : String}
    (h : (verdict files path).isRead = true) :
    (checkReport files [path]).bytes = utf8 ((verdict files path).line path) ∧
      (checkReport files [path]).result = (verdict files path).singleResult := by
  obtain ⟨actions, hbytes, -, hstep⟩ :=
    checkRemaining_of_read h 1 {} []
  have hreport : checkReport files [path] = _ := hstep
  rw [hreport, Report.bytes_after, hbytes]
  refine ⟨List.append_nil _, ?_⟩
  cases hverdict : verdict files path with
  | clean tokens => rfl
  | rejected error => rfl
  | unread failure => simp [hverdict, Verdict.isRead] at h

/-- Checking a single file writes the line of the verdict, if there is one, and has its result. -/
theorem checkReport_singleton (files : Files) (path : String) :
    (checkReport files [path]).bytes = utf8 ((verdict files path).line path) ∧
      (checkReport files [path]).result = (verdict files path).singleResult := by
  cases hverdict : verdict files path with
  | unread failure =>
    have hreport : checkReport files [path] = _ := checkRemaining_of_unread hverdict 1 {} []
    rw [hreport, Report.bytes_ofEvents]
    exact ⟨rfl, rfl⟩
  | clean tokens => exact hverdict ▸ checkReport_singleton_of_read (by rw [hverdict]; rfl)
  | rejected error => exact hverdict ▸ checkReport_singleton_of_read (by rw [hverdict]; rfl)

/-- What the delivery of one command tells about the delivery of the other, for the file at
`path`. -/
structure CommandsAgree (path : String) (tokens : Delivery ℕ) (check : Delivery CheckSummary) :
    Prop where
  /-- The tokens are printed exactly if the file passes, and the line tells how many there are. -/
  accepted : ∀ count, tokens.result = .ok count ↔
    check.result = .ok { passed := 1, failed := 0 } ∧
      check.output = utf8 s!"{path}: ok ({count} tokens)\n"
  /-- A scan that fails names the file. -/
  label : ∀ label error, tokens.result = .error (.scan label error) → label = path
  /-- The scan fails exactly if the file does not pass, and the line is how the failure is
  worded. -/
  rejected : ∀ message,
    (∃ label error, tokens.result = .error (.scan label error) ∧
      (Failure.scan label error).message = message) ↔
    check.result = .error (.check 1 1) ∧ check.output = utf8 s!"{message}\n"
  /-- The file cannot be read exactly if nothing is written, and both fail alike. -/
  unread : ∀ failure, tokens.result = .error failure ∧ failure.ConcernsReading ↔
    check.result = .error failure ∧ check.output = []

section

variable {path : String} {tokens : Delivery ℕ} {check : Delivery CheckSummary}

/-- The deliveries for a clean file agree. -/
theorem commandsAgree_of_clean {found : ℕ} (htokens : tokens.result = .ok found)
    (hcheck : check.result = .ok { passed := 1, failed := 0 })
    (houtput : check.output = utf8 s!"{path}: ok ({found} tokens)\n") :
    CommandsAgree path tokens check := by
  constructor
  · intro count
    rw [htokens, hcheck, houtput, utf8_inj]
    constructor
    · intro hcount
      cases hcount
      exact ⟨rfl, rfl⟩
    · rintro ⟨-, hline⟩
      rw [clean_line_inj hline]
  · intro label error hlabel
    simp [htokens] at hlabel
  · intro message
    simp [htokens, hcheck]
  · intro failure
    simp [htokens, hcheck]

/-- The deliveries for a rejected file agree. -/
theorem commandsAgree_of_rejected {error : LexError}
    (htokens : tokens.result = .error (.scan path error))
    (hcheck : check.result = .error (.check 1 1))
    (houtput : check.output = utf8 s!"{(Failure.scan path error).message}\n") :
    CommandsAgree path tokens check := by
  constructor
  · intro count
    simp [htokens, hcheck]
  · intro label found hlabel
    rw [htokens] at hlabel
    cases hlabel
    rfl
  · intro message
    rw [htokens, hcheck, houtput, utf8_inj]
    constructor
    · rintro ⟨label, found, hfound, rfl⟩
      cases hfound
      exact ⟨rfl, rfl⟩
    · rintro ⟨-, hline⟩
      exact ⟨path, error, rfl, (String.append_left_inj "\n").mp hline⟩
  · intro failure
    rw [htokens, hcheck]
    constructor
    · rintro ⟨hfailure, hreading⟩
      cases hfailure
      exact hreading.elim
    · rintro ⟨-, hnothing⟩
      -- The line has at least its line feed.
      rw [houtput, utf8_eq_nil] at hnothing
      exact absurd (String.append_eq_empty_iff.mp hnothing).2 (by decide)

/-- The deliveries for a file that cannot be read agree. -/
theorem commandsAgree_of_unread {failure : Failure} (hreading : failure.ConcernsReading)
    (htokens : tokens.result = .error failure) (hcheck : check.result = .error failure)
    (houtput : check.output = []) : CommandsAgree path tokens check := by
  constructor
  · intro count
    simp [htokens, hcheck]
  · intro label error hlabel
    rw [htokens] at hlabel
    cases hlabel
    exact hreading.elim
  · intro message
    rw [htokens, hcheck]
    constructor
    · rintro ⟨label, error, hfailure, -⟩
      cases hfailure
      exact hreading.elim
    · rintro ⟨hfailure, -⟩
      cases hfailure
      exact hreading.elim
  · intro found
    rw [htokens, hcheck, houtput]
    constructor
    · rintro ⟨hfound, -⟩
      cases hfound
      exact ⟨rfl, rfl⟩
    · rintro ⟨hfound, -⟩
      cases hfound
      exact ⟨rfl, hreading⟩

end

/-- Printing the tokens of a file and checking it agree, whatever lies at the path and however the
tokens are to be written. That does not change the result for any input. -/
theorem commands_agree (files : Files) (stdin : StandardInput) (format : OutputFormat)
    (positions : Bool) :
    (∀ path, CommandsAgree path
      ((TokensRequest.report files stdin { input := .file path, format, positions }).deliver none)
      ((checkReport files [path]).deliver none)) ∧
    ∀ input format' positions',
      ((TokensRequest.report files stdin { input, format, positions }).deliver none).result =
        ((TokensRequest.report files stdin
          { input, format := format', positions := positions' }).deliver none).result := by
  constructor
  · intro path
    have htokens : ((TokensRequest.report files stdin
        { input := .file path, format, positions }).deliver none).result =
          (verdict files path).result path := by
      rw [(Report.deliver_none _).2, TokensRequest.report_result, scan_file_eq]
    obtain ⟨hbytes, hresult⟩ := checkReport_singleton files path
    have houtput := (Report.deliver_none (checkReport files [path])).1.trans hbytes
    have hcheck := (Report.deliver_none (checkReport files [path])).2.trans hresult
    cases hverdict : verdict files path with
    | clean found =>
      rw [hverdict] at htokens houtput hcheck
      exact commandsAgree_of_clean htokens hcheck houtput
    | rejected error =>
      rw [hverdict] at htokens houtput hcheck
      exact commandsAgree_of_rejected htokens hcheck houtput
    | unread failure =>
      have hcannot := (verdict_eq_unread_iff files path failure).mp hverdict
      rw [hverdict] at htokens houtput hcheck
      exact commandsAgree_of_unread hcannot.concernsReading htokens hcheck houtput
  · intro input format' positions'
    rw [(Report.deliver_none _).2, (Report.deliver_none _).2, TokensRequest.report_result,
      TokensRequest.report_result]

end Lexis
