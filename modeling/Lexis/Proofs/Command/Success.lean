import Lexis.Program
import Lexis.Proofs.Command.Accounting
import Lexis.Proofs.Command.Printing

/-!
# When a command succeeds

Both commands succeed under the same condition: there is an input, and all inputs can be read and
cut into tokens. How the tokens are to be printed does not matter, nor does it matter which of the
two commands reads the input.
-/

namespace Lexis

namespace Input

/-- The input at a path. A single hyphen stands for standard input. -/
def atPath (path : String) : Input :=
  if path = "-" then .standardInput else .file path

/-- The input can be read, and its text has no error. -/
def IsClean (files : Files) (stdin : StandardInput) (input : Input) : Prop :=
  ∃ source tokens, (input.read files stdin).text = .ok source ∧ tokenize source = .ok tokens

/-- An input is scanned to its end exactly if it can be read and its text has no error. -/
theorem exists_places_iff (files : Files) (stdin : StandardInput) (input : Input) :
    (∃ places, (input.scan files stdin).tokens = .ok places) ↔ input.IsClean files stdin := by
  constructor
  · rintro ⟨places, hplaces⟩
    cases htext : (input.read files stdin).text with
    | error failure => simp [scan_of_unread htext] at hplaces
    | ok source =>
      have htokens := ((sourceConsumedAlike source).scan files stdin input htext _ hplaces).1
      exact ⟨source, _, htext, htokens⟩
  · rintro ⟨source, tokens, htext, htokens⟩
    obtain ⟨places, hplaces, -⟩ := scan_of_tokenize htext htokens
    exact ⟨places, hplaces⟩

/-- A file is a clean input exactly if the verdict on it is that it is clean. -/
theorem isClean_file_iff (files : Files) (stdin : StandardInput) (path : String) :
    (Input.file path).IsClean files stdin ↔ (verdict files path).isClean = true := by
  have hread : (Input.file path).read files stdin = readSource files path := rfl
  rw [IsClean, hread]
  cases htext : (readSource files path).text with
  | error failure => simp [verdict_of_unread htext, Verdict.isClean]
  | ok source =>
    cases htokens : tokenize source with
    | error error => simp [verdict_of_error htext htokens, Verdict.isClean, htokens]
    | ok tokens => simp [verdict_of_tokens htext htokens, Verdict.isClean, htokens]

end Input

/-- A clean file can be read and is not rejected. -/
theorem Verdict.isRead_of_isClean {v : Verdict} (h : v.isClean = true) :
    v.isRead = true ∧ v.isRejected = false := by
  cases v with
  | clean tokens => exact ⟨rfl, rfl⟩
  | rejected error => cases h
  | unread failure => cases h

/-- A check passes exactly if there are files and all of them are clean. -/
theorem exists_summary_iff (files : Files) (paths : List String) :
    (∃ summary, (checkReport files paths).result = .ok summary) ↔
      paths ≠ [] ∧ ∀ path ∈ paths, (verdict files path).isClean = true := by
  have hprefix : checked files paths <+: paths := List.takeWhile_prefix _
  constructor
  · rintro ⟨summary, hok⟩
    have hpaths : paths ≠ [] := by
      rintro rfl
      cases hok
    have hall : (checked files paths).length = paths.length := by
      by_contra hshort
      have hlt := Nat.lt_of_le_of_ne hprefix.length_le hshort
      obtain ⟨failure, -, hfailure⟩ :=
        result_checkReport_of_unread (List.getElem?_eq_getElem hlt)
      rw [hok] at hfailure
      cases hfailure
    have hnone : rejectedCount files paths = 0 := by
      by_contra hsome
      rw [result_checkReport_of_read hpaths hall, if_neg hsome] at hok
      cases hok
    exact ⟨hpaths, List.countP_eq_length.mp (cleanCount_eq_length hall hnone)⟩
  · rintro ⟨hpaths, hclean⟩
    have hchecked : checked files paths = paths :=
      List.takeWhile_eq_self_iff.mpr fun path hpath =>
        (Verdict.isRead_of_isClean (hclean path hpath)).1
    have hnone : rejectedCount files paths = 0 := by
      refine List.countP_eq_zero.mpr fun path hpath => ?_
      rw [(Verdict.isRead_of_isClean (hclean path hpath)).2]
      exact Bool.false_ne_true
    have hall : (checked files paths).length = paths.length := congrArg List.length hchecked
    exact ⟨_, (result_checkReport_of_read hpaths hall).trans (if_pos hnone)⟩

namespace Options

namespace Task

/-- The inputs that a task is given. -/
def inputs : Task → List Input
  | .tokens file expr _ _ => (file.map Input.atPath).toList ++ (expr.map Input.inline).toList
  | .check paths => paths.map .file

/-- A task that prints tokens is not given both a file and a text. -/
def NamesOneSource : Task → Prop
  | .tokens file expr _ _ => file = none ∨ expr = none
  | .check _ => True

/-- The input whose tokens are printed is the only one, and if there is none, printing fails. -/
theorem ofArguments_of_namesOneSource {file expr : Option String} {format : Option OutputFormat}
    {positions : Bool} (h : (Task.tokens file expr format positions).NamesOneSource) :
    (∃ input, Input.ofArguments file expr = .ok input ∧
      (Task.tokens file expr format positions).inputs = [input]) ∨
    Input.ofArguments file expr = .error .nothingGiven ∧
      (Task.tokens file expr format positions).inputs = [] := by
  rcases h with rfl | rfl
  · cases expr with
    | none => exact Or.inr ⟨rfl, rfl⟩
    | some text => exact Or.inl ⟨_, rfl, rfl⟩
  · cases file with
    | none => exact Or.inr ⟨rfl, rfl⟩
    | some path => exact Or.inl ⟨_, rfl, rfl⟩

/-- A task succeeds exactly if it is given an input and all its inputs are clean. -/
theorem report_eq_ok_iff {task : Task} (h : task.NamesOneSource) (world : World)
    (configuration : Configuration) :
    (task.report world configuration).result = .ok () ↔
      task.inputs ≠ [] ∧ ∀ input ∈ task.inputs, input.IsClean world.files world.stdin := by
  cases task with
  | tokens file expr format positions =>
    rcases ofArguments_of_namesOneSource h with ⟨input, hinput, hinputs⟩ | ⟨hnone, hinputs⟩
    · rw [hinputs, report, hinput, List.forall_mem_singleton, ← Input.exists_places_iff]
      simp only [TokensRequest.report_result]
      cases (input.scan world.files world.stdin).tokens <;> simp [Except.map]
    · rw [hinputs, report, hnone]
      simp [Report.ofEvents]
  | check paths =>
    have hclean : (∀ input ∈ paths.map Input.file, input.IsClean world.files world.stdin) ↔
        ∀ path ∈ paths, (verdict world.files path).isClean = true := by
      simp only [List.forall_mem_map, Input.isClean_file_iff]
    rw [inputs, hclean, ne_eq, List.map_eq_nil_iff, ← ne_eq, ← exists_summary_iff, report]
    cases (checkReport world.files paths).result <;> simp

end Task

/-- The task of a subcommand names one source. -/
theorem namesOneSource_of_task {given : Given} {scope : Scope} {task : Task}
    (h : given.task scope = .ok task) : task.NamesOneSource := by
  cases scope with
  | program => cases h
  | tokens =>
    simp only [Given.task] at h
    split at h
    · cases h
    · next hboth =>
      cases h
      rcases not_and_or.mp hboth with hfile | hexpr
      · exact Or.inl (Option.not_isSome_iff_eq_none.mp hfile)
      · exact Or.inr (Option.not_isSome_iff_eq_none.mp hexpr)
  | check =>
    simp only [Given.task] at h
    split at h
    · cases h
    · cases h
      trivial

/-- What succeeds as a whole has succeeded in its first part, and gone on from there. -/
theorem exists_of_bind_eq_ok {ε α β : Type} {x : Except ε α} {f : α → Except ε β} {b : β}
    (h : x >>= f = .ok b) : ∃ a, x = .ok a ∧ f a = .ok b := by
  cases x with
  | error e => cases h
  | ok a => exact ⟨a, rfl, h⟩

/-- The task of a subcommand and the words behind its name names one source. -/
theorem namesOneSource_of_followSubcommand {env : Environment} {scope : Scope}
    {words : List String} {common : Common} {task : Task}
    (h : followSubcommand env scope words = .ok (common, task)) : task.NamesOneSource := by
  obtain ⟨last, -, h⟩ := exists_of_bind_eq_ok h
  obtain ⟨level, -, h⟩ := exists_of_bind_eq_ok h
  obtain ⟨common, -, h⟩ := exists_of_bind_eq_ok h
  obtain ⟨found, htask, h⟩ := exists_of_bind_eq_ok h
  cases h
  exact namesOneSource_of_task htask

/-- The task of every command line that can be followed names one source. -/
theorem namesOneSource_of_follow {env : Environment} {words : List String}
    {invocation : Invocation} (h : follow env words = .ok invocation) :
    invocation.task.NamesOneSource := by
  obtain ⟨⟨level, subcommand⟩, -, h⟩ := exists_of_bind_eq_ok h
  cases subcommand with
  | none => cases h
  | some named =>
    simp only at h
    split at h
    · cases h
    · split at h
      · cases h
      · obtain ⟨⟨inner, task⟩, hinner, h⟩ := exists_of_bind_eq_ok h
        obtain ⟨level, -, h⟩ := exists_of_bind_eq_ok h
        obtain ⟨outer, -, h⟩ := exists_of_bind_eq_ok h
        cases h
        exact namesOneSource_of_followSubcommand hinner

end Options

end Lexis
