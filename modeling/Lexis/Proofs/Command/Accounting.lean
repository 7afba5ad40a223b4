import Mathlib.Data.List.TakeWhile
import Lexis.Proofs.Command.Verdicts

/-!
# The accounts of a check

A check goes through its files one by one, writes a line about each and keeps two counts, until it
meets a file that cannot be read. Here it is shown what that comes to for any list of files: which
lines are written, which of the possible results there is, and what becomes of both if the writer
has no room for all lines.
-/

namespace Lexis

/-- The files that a check reports on: those before the first that cannot be read. -/
def checked (files : Files) (paths : List String) : List String :=
  paths.takeWhile fun path => (verdict files path).isRead

/-- The files that a check reports on can be read. -/
theorem isRead_of_mem_checked {files : Files} {paths : List String} {path : String}
    (h : path ∈ checked files paths) : (verdict files path).isRead = true := by
  rw [checked] at h
  have hread := List.mem_takeWhile_imp h
  exact hread

/-- The lines about the files that a check reports on, as bytes. -/
def checkLines (files : Files) (paths : List String) : List UInt8 :=
  (checked files paths).flatMap fun path => utf8 ((verdict files path).line path)

/-- The number of files without an error. A path that is given twice counts twice. -/
def cleanCount (files : Files) (paths : List String) : ℕ :=
  paths.countP fun path => (verdict files path).isClean

/-- The number of files with an error. -/
def rejectedCount (files : Files) (paths : List String) : ℕ :=
  paths.countP fun path => (verdict files path).isRejected

/-- The summary that counts one more file, by its verdict. -/
def CheckSummary.counting (summary : CheckSummary) : Verdict → CheckSummary
  | .clean _ => { summary with passed := summary.passed + 1 }
  | .rejected _ => { summary with failed := summary.failed + 1 }
  | .unread _ => summary

section

variable {files : Files} {path : String}

/-- A clean file is counted among the clean ones. -/
theorem cleanCount_cons_of_clean {tokens : ℕ} (h : verdict files path = .clean tokens)
    (later : List String) : cleanCount files (path :: later) = cleanCount files later + 1 :=
  List.countP_cons_of_pos (by rw [h]; rfl)

/-- A clean file is not counted among the rejected ones. -/
theorem rejectedCount_cons_of_clean {tokens : ℕ} (h : verdict files path = .clean tokens)
    (later : List String) : rejectedCount files (path :: later) = rejectedCount files later :=
  List.countP_cons_of_neg (by rw [h]; exact Bool.false_ne_true)

/-- A rejected file is not counted among the clean ones. -/
theorem cleanCount_cons_of_rejected {error : LexError} (h : verdict files path = .rejected error)
    (later : List String) : cleanCount files (path :: later) = cleanCount files later :=
  List.countP_cons_of_neg (by rw [h]; exact Bool.false_ne_true)

/-- A rejected file is counted among the rejected ones. -/
theorem rejectedCount_cons_of_rejected {error : LexError}
    (h : verdict files path = .rejected error) (later : List String) :
    rejectedCount files (path :: later) = rejectedCount files later + 1 :=
  List.countP_cons_of_pos (by rw [h]; rfl)

/-- A file that can be read adds its line and is counted, and the check goes on. -/
theorem checkRemaining_of_read (h : (verdict files path).isRead = true) (total : ℕ)
    (summary : CheckSummary) (later : List String) :
    ∃ actions, actions.flatMap Action.bytes = utf8 ((verdict files path).line path) ∧
      FailAlike (.device .sinkFull) actions ∧
      checkRemaining files total summary (path :: later) =
        (checkRemaining files total (summary.counting (verdict files path)) later).after
          actions := by
  have houtcome := checkFile_outcome files path
  cases hverdict : verdict files path with
  | clean tokens =>
    rw [hverdict, Verdict.result] at houtcome
    refine ⟨(checkFile files path).events.map .log
      ++ [.write s!"{path}: ok ({tokens} tokens)\n" (.device .sinkFull)], ?_, ?_, ?_⟩
    · simp [Action.bytes, Verdict.line]
    · exact (failAlike_map_log _ _).append (failAlike_write _ _)
    · rw [checkRemaining]
      simp only [houtcome, CheckSummary.counting]
  | rejected error =>
    rw [hverdict, Verdict.result] at houtcome
    refine ⟨(checkFile files path).events.map .log
      ++ [.log (.checkFailed path),
        .write s!"{(Failure.scan path error).message}\n" (.device .sinkFull)], ?_, ?_, ?_⟩
    · simp [Action.bytes, Verdict.line]
    · exact (failAlike_map_log _ _).append
        ((failAlike_map_log _ [.checkFailed path]).append (failAlike_write _ _))
    · rw [checkRemaining]
      simp only [houtcome, CheckSummary.counting]
  | unread failure => simp [hverdict, Verdict.isRead] at h

/-- A file that cannot be read ends the check. -/
theorem checkRemaining_of_unread {failure : Failure} (h : verdict files path = .unread failure)
    (total : ℕ) (summary : CheckSummary) (later : List String) :
    checkRemaining files total summary (path :: later) =
      .ofEvents (checkFile files path).events (.error failure) := by
  have houtcome := checkFile_outcome files path
  rw [h, Verdict.result] at houtcome
  rw [checkRemaining]
  cases (verdict_eq_unread_iff files path failure).mp h <;> simp only [houtcome]

end

/-- What the rest of a check comes to, behind the files that are in the summary. -/
structure RestAccounts (files : Files) (total : ℕ) (summary : CheckSummary)
    (paths : List String) : Prop where
  /-- The lines of the files that are reported on are written. -/
  bytes : (checkRemaining files total summary paths).bytes = checkLines files paths
  /-- A line fails to be written only if the writer is full. -/
  failAlike : FailAlike (.device .sinkFull) (checkRemaining files total summary paths).actions
  /-- The first file that cannot be read decides the result. -/
  aborted : ∀ path, paths[(checked files paths).length]? = some path →
    ∃ failure, verdict files path = .unread failure ∧
      (checkRemaining files total summary paths).result = .error failure
  /-- If all files can be read, the counts decide the result. -/
  counted : (checked files paths).length = paths.length →
    (checkRemaining files total summary paths).result =
      CheckSummary.result
        { passed := summary.passed + cleanCount files paths
          failed := summary.failed + rejectedCount files paths } total

section

variable {files : Files} {total : ℕ} {summary : CheckSummary} {path : String} {later : List String}

/-- The accounts behind a file that can be read give the accounts from that file on. -/
theorem RestAccounts.of_read (hread : (verdict files path).isRead = true)
    (hrest : RestAccounts files total (summary.counting (verdict files path)) later) :
    RestAccounts files total summary (path :: later) := by
  obtain ⟨actions, hbytes, halike, hstep⟩ :=
    checkRemaining_of_read hread total summary later
  have hchecked : checked files (path :: later) = path :: checked files later :=
    List.takeWhile_cons_of_pos hread
  constructor
  · rw [hstep, Report.bytes_after, hbytes, hrest.bytes, checkLines, checkLines, hchecked,
      List.flatMap_cons]
  · rw [hstep]
    exact halike.append hrest.failAlike
  · intro unread hunread
    rw [hchecked, List.length_cons, List.getElem?_cons_succ] at hunread
    rw [hstep]
    exact hrest.aborted unread hunread
  · intro hall
    rw [hchecked, List.length_cons, List.length_cons, Nat.add_right_cancel_iff] at hall
    rw [hstep]
    refine (hrest.counted hall).trans ?_
    cases hverdict : verdict files path with
    | clean tokens =>
      rw [cleanCount_cons_of_clean hverdict, rejectedCount_cons_of_clean hverdict,
        CheckSummary.counting, Nat.add_assoc, Nat.add_comm 1]
    | rejected error =>
      rw [cleanCount_cons_of_rejected hverdict, rejectedCount_cons_of_rejected hverdict,
        CheckSummary.counting, Nat.add_assoc, Nat.add_comm 1]
    | unread failure => simp [hverdict, Verdict.isRead] at hread

/-- A file that cannot be read settles the accounts. -/
theorem RestAccounts.of_unread {failure : Failure} (h : verdict files path = .unread failure) :
    RestAccounts files total summary (path :: later) := by
  have hstep := checkRemaining_of_unread h total summary later
  have hchecked : checked files (path :: later) = [] :=
    List.takeWhile_cons_of_neg (by simp [h, Verdict.isRead])
  constructor
  · rw [hstep, Report.bytes_ofEvents, checkLines, hchecked, List.flatMap_nil]
  · rw [hstep]
    exact failAlike_map_log _ _
  · intro unread hunread
    rw [hchecked, List.length_nil, List.getElem?_cons_zero] at hunread
    obtain rfl := Option.some.inj hunread
    exact ⟨failure, h, by rw [hstep]; rfl⟩
  · intro hall
    rw [hchecked] at hall
    cases hall

end

/-- From any file on, a check comes to what its accounts say. -/
theorem restAccounts (files : Files) (total : ℕ) (summary : CheckSummary) (paths : List String) :
    RestAccounts files total summary paths := by
  -- Every file that is read changes the summary, so the accounts are kept for all summaries.
  induction paths generalizing summary with
  | nil =>
    refine ⟨rfl, ?_, ?_, fun _ => rfl⟩
    · intro text onFull hmem
      cases hmem
    · intro path hpath
      cases hpath
  | cons path later ih =>
    cases hverdict : verdict files path with
    | clean tokens => exact .of_read (by rw [hverdict]; rfl) (ih _)
    | rejected error => exact .of_read (by rw [hverdict]; rfl) (ih _)
    | unread failure => exact .of_unread hverdict

/-- If all files can be read and none has an error, all of them are clean. -/
theorem cleanCount_eq_length {files : Files} {paths : List String}
    (hall : (checked files paths).length = paths.length) (hnone : rejectedCount files paths = 0) :
    cleanCount files paths = paths.length := by
  have hchecked : checked files paths = paths := (List.takeWhile_prefix _).eq_of_length hall
  refine List.countP_eq_length.mpr fun path hpath => ?_
  have hread := isRead_of_mem_checked (hchecked.symm ▸ hpath : path ∈ checked files paths)
  have hrejected := List.countP_eq_zero.mp hnone path hpath
  cases hverdict : verdict files path with
  | clean tokens => rfl
  | rejected error => exact absurd (by rw [hverdict]; rfl) hrejected
  | unread failure => simp [hverdict, Verdict.isRead] at hread

/-- If there are files, the whole check is the rest behind an empty summary. -/
theorem checkReport_of_ne_nil (files : Files) {paths : List String} (h : paths ≠ []) :
    checkReport files paths = checkRemaining files paths.length {} paths := by
  rw [checkReport, if_neg (by simpa using h)]

/-- If there are files and all of them can be read, the counts decide the result of a check. -/
theorem result_checkReport_of_read {files : Files} {paths : List String} (hpaths : paths ≠ [])
    (hall : (checked files paths).length = paths.length) :
    (checkReport files paths).result =
      if rejectedCount files paths = 0 then .ok { passed := cleanCount files paths, failed := 0 }
      else .error (.check (rejectedCount files paths) paths.length) := by
  rw [checkReport_of_ne_nil files hpaths, (restAccounts files _ {} paths).counted hall]
  by_cases hnone : rejectedCount files paths = 0 <;> simp [CheckSummary.result, hnone]

/-- The first file that cannot be read decides the result of a check. -/
theorem result_checkReport_of_unread {files : Files} {paths : List String} {path : String}
    (hpath : paths[(checked files paths).length]? = some path) :
    ∃ failure, CannotRead files path failure ∧
      (checkReport files paths).result = .error failure := by
  have hpaths : paths ≠ [] := by
    rintro rfl
    cases hpath
  obtain ⟨failure, hunread, hfailure⟩ := (restAccounts files paths.length {} paths).aborted _ hpath
  refine ⟨failure, (verdict_eq_unread_iff files path failure).mp hunread, ?_⟩
  rw [checkReport_of_ne_nil files hpaths, hfailure]

/-- A check writes its lines, of which there are none if there are no files. -/
theorem bytes_checkReport (files : Files) (paths : List String) :
    (checkReport files paths).bytes = checkLines files paths := by
  by_cases hpaths : paths = []
  · rw [hpaths]
    rfl
  · rw [checkReport_of_ne_nil files hpaths, (restAccounts files paths.length {} paths).bytes]

/-- A check fails to write a line only if the writer is full. -/
theorem failAlike_checkReport (files : Files) (paths : List String) :
    FailAlike (.device .sinkFull) (checkReport files paths).actions := by
  by_cases hpaths : paths = []
  · rw [hpaths]
    exact failAlike_map_log _ []
  · rw [checkReport_of_ne_nil files hpaths]
    exact (restAccounts files paths.length {} paths).failAlike

/-- What a check of files comes to, whoever takes its lines. -/
structure CheckAccounts (files : Files) (paths : List String) : Prop where
  /-- Without a file there is nothing to check. -/
  empty : paths = [] → ∀ room,
    ((checkReport files paths).deliver room).output = [] ∧
      ((checkReport files paths).deliver room).result = .error (.input .noFiles)
  /-- All files that are reported on can be read. -/
  readable : ∀ path ∈ checked files paths, ∀ failure, ¬CannotRead files path failure
  /-- A line is written about each file that is reported on. -/
  output : ((checkReport files paths).deliver none).output = checkLines files paths
  /-- The file behind those that are reported on, if there is one, cannot be read, and this is the
  result. -/
  aborted : ∀ path, paths[(checked files paths).length]? = some path →
    ∃ failure, CannotRead files path failure ∧
      ((checkReport files paths).deliver none).result = .error failure
  /-- If all files can be read and none has an error, all have passed. -/
  passed : paths ≠ [] → (checked files paths).length = paths.length →
    rejectedCount files paths = 0 →
    ((checkReport files paths).deliver none).result = .ok { passed := paths.length, failed := 0 }
  /-- If all files can be read and some have an error, the number of these is told. -/
  rejected : (checked files paths).length = paths.length → rejectedCount files paths ≠ 0 →
    ((checkReport files paths).deliver none).result =
      .error (.check (rejectedCount files paths) paths.length)
  /-- A writer with room for all lines changes nothing. -/
  roomy : ∀ room, (checkLines files paths).length ≤ room →
    ((checkReport files paths).deliver (some room)).output = checkLines files paths ∧
      ((checkReport files paths).deliver (some room)).result =
        ((checkReport files paths).deliver none).result
  /-- A writer with less room is filled, and that is the result. -/
  full : ∀ room, room < (checkLines files paths).length →
    ((checkReport files paths).deliver (some room)).output = (checkLines files paths).take room ∧
      ((checkReport files paths).deliver (some room)).result = .error (.device .sinkFull)

/-- The lines of a check, its result and what a writer without enough room makes of both follow
from the verdicts on its files, in their order and as often as they are given. -/
theorem check_accounts (files : Files) (paths : List String) : CheckAccounts files paths := by
  have hbytes := bytes_checkReport files paths
  obtain ⟨houtput, hresult⟩ := (checkReport files paths).deliver_none
  refine ⟨?_, ?_, houtput.trans hbytes, ?_, ?_, ?_, ?_, ?_⟩
  · rintro rfl room
    cases room <;> exact ⟨rfl, rfl⟩
  · intro path hpath failure hcannot
    have hread := isRead_of_mem_checked hpath
    rw [(verdict_eq_unread_iff files path failure).mpr hcannot] at hread
    cases hread
  · intro path hpath
    rw [hresult]
    exact result_checkReport_of_unread hpath
  · intro hpaths hall hnone
    rw [hresult, result_checkReport_of_read hpaths hall, if_pos hnone,
      cleanCount_eq_length hall hnone]
  · intro hall hsome
    have hpaths : paths ≠ [] := by
      rintro rfl
      exact hsome rfl
    rw [hresult, result_checkReport_of_read hpaths hall, if_neg hsome]
  · intro room hroom
    rw [Report.deliver_of_le (hbytes ▸ hroom)]
    exact ⟨houtput.trans hbytes, rfl⟩
  · intro room hroom
    rw [← hbytes] at hroom ⊢
    exact Report.deliver_of_lt_of_failAlike hroom (failAlike_checkReport files paths)

/-- A missing file ends the check although a file before it has an error, and the file behind it is
not looked at. -/
example :
    ((checkReport (fun path => if path = "a" then .file ".5".toUTF8 else .missing)
      ["a", "b", "a"]).deliver none).result = .error (.input (.missing "b")) := by
  decide +kernel

end Lexis
