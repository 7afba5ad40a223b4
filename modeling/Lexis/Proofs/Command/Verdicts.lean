import Lexis.Proofs.Command.Delivery
import Lexis.Proofs.Scanner.Consumers

/-!
# Verdicts on files

What there is to say about a file is said by its text and the tokens of that. The commands come to
it by loops of their own. Here the result of either command for one file is shown to be the
verdict, which makes them agree.
-/

namespace Lexis

/-- Says why the file at a path cannot be read. -/
inductive CannotRead (files : Files) (path : String) : Failure → Prop
  /-- There is nothing. -/
  | missing (h : files path = .missing) : CannotRead files path (.input (.missing path))
  /-- There is something that is not a file. -/
  | notFile (h : files path = .directory) : CannotRead files path (.input (.notFile path))
  /-- There is a file, and reading it fails. -/
  | unreadable {reason : String} (h : files path = .unreadable reason) :
      CannotRead files path (.device (.stated reason))
  /-- There is a file whose bytes are no text. -/
  | notText {content : ByteArray} (h : files path = .file content)
      (hbytes : ¬content.IsValidUTF8) : CannotRead files path (.device .notText)

/-- Reading a source file fails exactly where the file cannot be read, for the reason that this
gives. -/
theorem readSource_eq_error_iff (files : Files) (path : String) (failure : Failure) :
    (readSource files path).text = .error failure ↔ CannotRead files path failure := by
  constructor
  · intro h
    unfold readSource at h
    cases hentry : files path with
    | missing =>
      simp only [hentry] at h
      exact Except.error.inj h ▸ .missing hentry
    | directory =>
      simp only [hentry] at h
      exact Except.error.inj h ▸ .notFile hentry
    | unreadable reason =>
      simp only [hentry] at h
      exact Except.error.inj h ▸ .unreadable hentry
    | file content =>
      simp only [hentry, decodeText, String.fromUTF8?] at h
      by_cases hbytes : content.IsValidUTF8
      · simp [hbytes] at h
      · simp only [hbytes, dite_false] at h
        exact Except.error.inj h ▸ .notText hentry hbytes
  · intro h
    cases h with
    | missing hentry => simp only [readSource, hentry]
    | notFile hentry => simp only [readSource, hentry]
    | unreadable hentry => simp only [readSource, hentry]
    | notText hentry hbytes => simp [readSource, hentry, decodeText, String.fromUTF8?, hbytes]

/-- What there is to say about a file. -/
inductive Verdict where
  /-- The text of the file has this number of tokens. -/
  | clean (tokens : ℕ)
  /-- The text of the file has an error, and this is the first. -/
  | rejected (error : LexError)
  /-- The file cannot be read. -/
  | unread (failure : Failure)

/-- The verdict on the file at a path. -/
def verdict (files : Files) (path : String) : Verdict :=
  match (readSource files path).text with
  | .error failure => .unread failure
  | .ok source =>
    match tokenize source with
    | .ok tokens => .clean tokens.length
    | .error error => .rejected error

namespace Verdict

/-- The result of counting the tokens of the file at a path: their number, or the failure that tells
why there is none. -/
def result (path : String) : Verdict → Except Failure ℕ
  | clean tokens => .ok tokens
  | rejected error => .error (.scan path error)
  | unread failure => .error failure

/-- The line that is to be written about a file that can be read. -/
def line (path : String) : Verdict → String
  | clean tokens => s!"{path}: ok ({tokens} tokens)\n"
  | rejected error => s!"{(Failure.scan path error).message}\n"
  | unread _ => ""

/-- Says whether the file can be read. -/
def isRead : Verdict → Bool
  | unread _ => false
  | _ => true

/-- Says whether the file can be read and its text has no error. -/
def isClean : Verdict → Bool
  | clean _ => true
  | _ => false

/-- Says whether the file can be read and its text has an error. -/
def isRejected : Verdict → Bool
  | rejected _ => true
  | _ => false

end Verdict

section

variable {files : Files} {path : String} {source : String}

/-- A file that cannot be read has the failure as its verdict. -/
theorem verdict_of_unread {failure : Failure}
    (h : (readSource files path).text = .error failure) :
    verdict files path = .unread failure := by
  rw [verdict, h]

/-- A file that can be cut into tokens is clean. -/
theorem verdict_of_tokens {tokens : List Token} (h : (readSource files path).text = .ok source)
    (htokens : tokenize source = .ok tokens) :
    verdict files path = .clean tokens.length := by
  simp only [verdict, h, htokens]

/-- A file that cannot be cut into tokens is rejected for its first error. -/
theorem verdict_of_error {error : LexError} (h : (readSource files path).text = .ok source)
    (herror : tokenize source = .error error) :
    verdict files path = .rejected error := by
  simp only [verdict, h, herror]

end

/-- The verdict on a file that cannot be read says why. -/
theorem verdict_eq_unread_iff (files : Files) (path : String) (failure : Failure) :
    verdict files path = .unread failure ↔ CannotRead files path failure := by
  rw [← readSource_eq_error_iff]
  cases htext : (readSource files path).text with
  | error found => simp [verdict_of_unread htext]
  | ok source =>
    cases htokens : tokenize source with
    | error error => simp [verdict_of_error htext htokens]
    | ok tokens => simp [verdict_of_tokens htext htokens]

/-- The loop that counts the tokens of a file comes to the verdict. -/
theorem checkFile_outcome (files : Files) (path : String) :
    (checkFile files path).outcome = (verdict files path).result path := by
  cases htext : (readSource files path).text with
  | error failure =>
    rw [checkFile, htext, verdict_of_unread htext]
    rfl
  | ok source =>
    rw [(sourceConsumedAlike source).check files path htext]
    cases htokens : tokenize source with
    | error error =>
      rw [verdict_of_error htext htokens]
      rfl
    | ok tokens =>
      rw [verdict_of_tokens htext htokens]
      rfl

/-- The result of printing tokens is their number: neither the format nor the places count. -/
theorem TokensRequest.report_result (files : Files) (stdin : StandardInput)
    (request : TokensRequest) :
    (request.report files stdin).result =
      (request.input.scan files stdin).tokens.map List.length := by
  rw [report]
  cases (request.input.scan files stdin).tokens <;> rfl

/-- The loop that locates the tokens of a file comes to the verdict. -/
theorem scan_file_eq (files : Files) (stdin : StandardInput) (path : String) :
    ((Input.file path).scan files stdin).tokens.map List.length =
      (verdict files path).result path := by
  have hread : (Input.file path).read files stdin = readSource files path := rfl
  cases htext : (readSource files path).text with
  | error failure =>
    rw [Input.scan, hread, htext, verdict_of_unread htext]
    rfl
  | ok source =>
    have halike := sourceConsumedAlike source
    cases hscan : ((Input.file path).scan files stdin).tokens with
    | ok places =>
      have htokens := (halike.scan files stdin (.file path) htext places hscan).1
      rw [verdict_of_tokens htext htokens, List.length_map]
      rfl
    | error failure =>
      obtain ⟨error, htokens, rfl⟩ :=
        (halike.scanError files stdin (.file path) htext failure).mp hscan
      rw [verdict_of_error htext htokens]
      rfl

end Lexis
