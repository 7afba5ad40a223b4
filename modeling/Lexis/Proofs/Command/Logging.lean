import Lexis.Proofs.Command.Success

/-!
# Logging does not disturb a run

The log goes to standard error only, and it is written whole lines at a time before the line that
tells of a failure. Neither the work of a run nor its result can see whether there is a log. So the
switches and the setting for it change nothing but the log, and without them standard error holds
the failure and nothing else.
-/

namespace Lexis

/-- The text that tells of a failure on standard error. -/
def Failure.line (failure : Failure) : String :=
  s!"error: {failure.message}\n"

/-- The text ends with the line, which begins where the text begins or behind a line feed. -/
def EndsWithLine (text line : String) : Prop :=
  ∃ before, text = before ++ line ∧ (before = "" ∨ ∃ earlier, before = earlier ++ "\n")

/-- A log consists of whole lines, and so a text ends with the line that stands behind its log. -/
theorem endsWithLine_log (colored : Bool) (stamp : Stamp) (log : List Event) (line : String) :
    EndsWithLine (String.join (log.map (Event.line colored stamp)) ++ line) line := by
  refine ⟨_, rfl, ?_⟩
  rcases List.eq_nil_or_concat log with rfl | ⟨earlier, last, rfl⟩
  · exact Or.inl rfl
  · obtain ⟨text, htext⟩ : ∃ text, last.line colored stamp = text ++ "\n" := ⟨_, rfl⟩
    refine Or.inr ⟨String.join (earlier.map (Event.line colored stamp)) ++ text, ?_⟩
    rw [List.concat_eq_append, List.map_append, String.join_append, List.map_singleton,
      String.join_cons, String.join_nil, String.append_empty, htext, String.append_assoc]

section

variable {files files' : Files} {stdin stdin' : StandardInput}

/-- What comes of scanning an input depends only on what is read of it. -/
theorem Input.scan_congr {input : Input} (h : input.read files stdin = input.read files' stdin') :
    input.scan files stdin = input.scan files' stdin' := by
  simp only [scan, h]

/-- What comes of checking one file depends only on what is read of it. -/
theorem checkFile_congr {path : String} (h : readSource files path = readSource files' path) :
    checkFile files path = checkFile files' path := by
  simp only [checkFile, h]

/-- The rest of a check depends only on what is read of the remaining files. -/
theorem checkRemaining_congr {paths : List String}
    (h : ∀ path ∈ paths, readSource files path = readSource files' path) (total : ℕ)
    (summary : CheckSummary) :
    checkRemaining files total summary paths = checkRemaining files' total summary paths := by
  induction paths generalizing summary with
  | nil => rfl
  | cons path later ih =>
    have hfirst := checkFile_congr (h path List.mem_cons_self)
    have hlater := ih fun p hp => h p (List.mem_cons_of_mem _ hp)
    simp only [checkRemaining, hfirst, hlater]

/-- A whole check depends only on what is read of its files. -/
theorem checkReport_congr {paths : List String}
    (h : ∀ path ∈ paths, readSource files path = readSource files' path) :
    checkReport files paths = checkReport files' paths := by
  simp only [checkReport, checkRemaining_congr h]

end

namespace Options

/-- The work of a task depends on what is read of its inputs and on how tokens are to be written,
and on nothing else of the configuration. -/
theorem Task.report_congr {task : Task} (hsource : task.NamesOneSource) {world world' : World}
    (hinputs : ∀ input ∈ task.inputs,
      input.read world.files world.stdin = input.read world'.files world'.stdin)
    {configuration configuration' : Configuration}
    (houtput : configuration.output = configuration'.output) :
    task.report world configuration = task.report world' configuration' := by
  cases task with
  | tokens file expr format positions =>
    rcases ofArguments_of_namesOneSource hsource with ⟨input, hinput, honly⟩ | ⟨hnone, -⟩
    · have hmem : input ∈ (Task.tokens file expr format positions).inputs := by
        rw [honly]
        exact List.mem_singleton_self input
      have hscan := Input.scan_congr (hinputs input hmem)
      simp only [report, hinput, TokensRequest.report, hscan, houtput]
    · simp only [report, hnone]
  | check paths =>
    have hcheck : checkReport world.files paths = checkReport world'.files paths :=
      checkReport_congr fun path hpath => hinputs (.file path) (List.mem_map_of_mem hpath)
    simp only [report, hcheck]

end Options

/-- Two outcomes look the same but for their logs. -/
structure Outcome.Alike (outcome outcome' : Outcome) : Prop where
  /-- The outputs on standard output are the same. -/
  output : outcome.output = outcome'.output
  /-- The exit status is the same. -/
  exit : outcome.exit = outcome'.exit
  /-- If it tells of a failure, standard error ends with the same line about it. -/
  failing : outcome.exit ≠ 0 → ∃ failure : Failure, ∀ stamp,
    EndsWithLine (outcome.stderr stamp) failure.line ∧
    EndsWithLine (outcome'.stderr stamp) failure.line

namespace Program

open Options

/-- The work of an invocation, unless the configuration cannot be loaded. -/
def work (world : World) (invocation : Invocation) : Except Failure (Report Unit) :=
  (Configuration.locate world.files world.places invocation.config).map fun found =>
    invocation.task.report world found.1

/-- The result of an invocation. -/
def result (world : World) (invocation : Invocation) : Except Failure Unit :=
  (work world invocation).bind Report.result

/-- The run is quiet: neither its flags nor its configuration ask for a log. -/
def IsQuiet (world : World) (invocation : Invocation) : Prop :=
  invocation.verbose = false ∧ ∀ configuration path?,
    Configuration.locate world.files world.places invocation.config = .ok (configuration, path?) →
    configuration.verbose = false

/-- What a run with the given log leaves of its work. -/
def concluded (colored : Bool) (log : List Event) : Except Failure (Report Unit) → Outcome
  | .error failure => failed colored log [] failure
  | .ok report =>
    match report.result with
    | .error failure => failed colored log report.bytes failure
    | .ok () => { exit := 0, output := report.bytes, log := log, colored := colored }

/-- A run leaves its work and some log, which is empty if nothing asks for it. -/
theorem exists_concluded (world : World) (invocation : Invocation) :
    ∃ log, perform world invocation =
        concluded (!invocation.noColor) log (work world invocation) ∧
      (IsQuiet world invocation → log = []) := by
  rw [perform, work, IsQuiet]
  cases hlocate : Configuration.locate world.files world.places invocation.config with
  | error failure => exact ⟨[], rfl, fun _ => rfl⟩
  | ok found =>
    obtain ⟨configuration, path?⟩ := found
    let delivery := (invocation.task.report world configuration).deliver none
    obtain ⟨houtput, hresult⟩ := (invocation.task.report world configuration).deliver_none
    refine ⟨logged (invocation.verbose || configuration.verbose)
      (path?.toList.map .configurationLoaded ++ delivery.log), ?_, ?_⟩
    · cases hdone : (invocation.task.report world configuration).result <;>
        simp [performUnder, houtput, hresult, hdone, Except.map, concluded, delivery]
    · rintro ⟨hflag, hsetting⟩
      simp [logged, hflag, hsetting configuration path? rfl]

/-- The exit status of a run follows from the result of its work. -/
theorem exit_concluded (colored : Bool) (log : List Event) (done : Except Failure (Report Unit)) :
    (concluded colored log done).exit =
      match done.bind Report.result with
      | .ok () => 0
      | .error _ => 1 := by
  cases done with
  | error failure => rfl
  | ok report => cases hresult : report.result <;> simp [concluded, hresult, Except.bind, failed]

/-- The text on standard error is the log and what follows from the result of the work. -/
theorem stderr_concluded (colored : Bool) (log : List Event)
    (done : Except Failure (Report Unit)) (stamp : Stamp) :
    (concluded colored log done).stderr stamp =
      String.join (log.map (Event.line colored stamp)) ++
        match done.bind Report.result with
        | .ok () => ""
        | .error failure => failure.line := by
  cases done with
  | error failure => rfl
  | ok report =>
    cases hresult : report.result <;>
      simp [concluded, hresult, Except.bind, failed, Outcome.stderr, Failure.line]

/-- The log does not change what is written to standard output. -/
theorem output_concluded (colored colored' : Bool) (log log' : List Event)
    (done : Except Failure (Report Unit)) :
    (concluded colored log done).output = (concluded colored' log' done).output := by
  cases done with
  | error failure => rfl
  | ok report => cases hresult : report.result <;> simp [concluded, hresult, failed]

section

variable (world : World) (invocation : Invocation)

/-- A run succeeds exactly if its result is no failure. -/
theorem exit_perform_eq_zero_iff :
    (perform world invocation).exit = 0 ↔ result world invocation = .ok () := by
  obtain ⟨log, hconcluded, -⟩ := exists_concluded world invocation
  rw [hconcluded, exit_concluded, ← result]
  cases result world invocation with
  | ok done => simp
  | error failure => simp

/-- If the result of a run is a failure, standard error ends with the line that tells of it. -/
theorem perform_of_failure {failure : Failure} (h : result world invocation = .error failure) :
    (perform world invocation).exit = 1 ∧
      ∀ stamp, EndsWithLine ((perform world invocation).stderr stamp) failure.line := by
  obtain ⟨log, hconcluded, -⟩ := exists_concluded world invocation
  refine ⟨?_, fun stamp => ?_⟩
  · rw [hconcluded, exit_concluded, ← result, h]
  · rw [hconcluded, stderr_concluded, ← result, h]
    exact endsWithLine_log _ stamp log failure.line

/-- If nothing asks for a log, standard error holds the line of the failure alone, or nothing. -/
theorem stderr_perform_of_quiet (hquiet : IsQuiet world invocation) (stamp : Stamp) :
    (perform world invocation).stderr stamp =
      match result world invocation with
      | .ok () => ""
      | .error failure => failure.line := by
  obtain ⟨log, hconcluded, hempty⟩ := exists_concluded world invocation
  rw [hconcluded, hempty hquiet, stderr_concluded, ← result, List.map_nil, String.join_nil,
    String.empty_append]

/-- The result of a run is no failure exactly if the configuration can be loaded, an input is given,
and all inputs are clean. -/
theorem result_eq_ok_iff (hsource : invocation.task.NamesOneSource) :
    result world invocation = .ok () ↔
      (∃ found, Configuration.locate world.files world.places invocation.config = .ok found) ∧
      invocation.task.inputs ≠ [] ∧
      ∀ input ∈ invocation.task.inputs, input.IsClean world.files world.stdin := by
  rw [result, work]
  cases Configuration.locate world.files world.places invocation.config with
  | error failure => simp [Except.map, Except.bind]
  | ok found =>
    rw [← Task.report_eq_ok_iff hsource world found.1]
    simp [Except.map, Except.bind]

end

/-- Two runs that have the same task, read the same from their inputs, and load configurations that
say the same about the output, or fail to load them alike. Whether there is a log, and whether it
has colors, may differ. -/
structure SameButLogging (world : World) (invocation : Invocation) (world' : World)
    (invocation' : Invocation) : Prop where
  /-- The tasks are the same. -/
  task : invocation.task = invocation'.task
  /-- What the configurations say about the output is the same. -/
  configuration :
    (Configuration.locate world.files world.places invocation.config).map (·.1.output) =
      (Configuration.locate world'.files world'.places invocation'.config).map (·.1.output)
  /-- What is read of the inputs is the same. -/
  inputs : ∀ input ∈ invocation.task.inputs,
    input.read world.files world.stdin = input.read world'.files world'.stdin

/-- Two runs that differ in their logging only have the same work. -/
theorem SameButLogging.work_eq {world world' : World} {invocation invocation' : Invocation}
    (h : SameButLogging world invocation world' invocation')
    (hsource : invocation.task.NamesOneSource) :
    work world invocation = work world' invocation' := by
  have hconfiguration := h.configuration
  rw [work, work, ← h.task]
  -- Either both configurations can be loaded, or both fail in the same way.
  cases hfound : Configuration.locate world.files world.places invocation.config with
  | error failure =>
    cases hfound' : Configuration.locate world'.files world'.places invocation'.config with
    | error failure' => simpa [hfound, hfound', Except.map] using hconfiguration
    | ok found' => simp [hfound, hfound', Except.map] at hconfiguration
  | ok found =>
    cases hfound' : Configuration.locate world'.files world'.places invocation'.config with
    | error failure' => simp [hfound, hfound', Except.map] at hconfiguration
    | ok found' =>
      have houtput : found.1.output = found'.1.output := by
        simpa [hfound, hfound', Except.map] using hconfiguration
      simp only [Except.map, Task.report_congr hsource h.inputs houtput]

/-- What logging does to a run that follows the command line. -/
structure LogsApart (world : World) (env : Environment) (words : List String)
    (invocation : Invocation) : Prop where
  /-- A run that differs only in what concerns the log looks the same but for its log, and has the
  same result. -/
  alike : ∀ (world' : World) (env' : Environment) (words' : List String)
    (invocation' : Invocation), follow env' words' = .ok invocation' →
    SameButLogging world invocation world' invocation' →
    (run world env words).Alike (run world' env' words') ∧
    result world invocation = result world' invocation'
  /-- If the result is a failure, standard error ends with the line that tells of it. -/
  failing : ∀ failure, result world invocation = .error failure →
    (run world env words).exit = 1 ∧
    ∀ stamp, EndsWithLine ((run world env words).stderr stamp) failure.line
  /-- If nothing asks for a log, there is nothing else on standard error. -/
  quiet : IsQuiet world invocation → ∀ stamp,
    ((run world env words).exit = 0 → (run world env words).stderr stamp = "") ∧
    ∀ failure, result world invocation = .error failure →
      (run world env words).stderr stamp = failure.line
  /-- The result is a failure exactly if the exit status says so. -/
  fails : (run world env words).exit ≠ 0 ↔ ∃ failure, result world invocation = .error failure
  /-- The run succeeds exactly if the configuration can be loaded, an input is given, and every
  input can be read and cut into tokens. -/
  succeeds : (run world env words).exit = 0 ↔
    (∃ found, Configuration.locate world.files world.places invocation.config = .ok found) ∧
    invocation.task.inputs ≠ [] ∧
    ∀ input ∈ invocation.task.inputs, input.IsClean world.files world.stdin

/-- Whether a run is logged changes nothing but the log: standard output, the exit status and the
line about a failure do not depend on it, and without a log that line is all there is on standard
error. The exit status tells exactly whether all inputs could be read and cut into tokens. -/
theorem logs_apart {world : World} {env : Environment} {words : List String}
    {invocation : Invocation} (h : follow env words = .ok invocation) :
    LogsApart world env words invocation := by
  have hsource := namesOneSource_of_follow h
  have hrun : run world env words = perform world invocation := by rw [run, h]
  have hzero := exit_perform_eq_zero_iff world invocation
  have hfails : (perform world invocation).exit ≠ 0 ↔
      ∃ failure, result world invocation = .error failure := by
    rw [ne_eq, hzero]
    cases result world invocation <;> simp
  constructor
  case alike =>
    intro world' env' words' invocation' h' hsame
    have hrun' : run world' env' words' = perform world' invocation' := by rw [run, h']
    have hwork := hsame.work_eq hsource
    have hresult : result world invocation = result world' invocation' := by
      rw [result, result, hwork]
    -- The logs are two, but the work behind them is one.
    obtain ⟨log, hconcluded, -⟩ := exists_concluded world invocation
    obtain ⟨log', hconcluded', -⟩ := exists_concluded world' invocation'
    rw [hrun, hrun']
    refine ⟨?_, hresult⟩
    constructor
    case output =>
      rw [hconcluded, hconcluded', ← hwork]
      exact output_concluded ..
    case exit => rw [hconcluded, hconcluded', ← hwork, exit_concluded, exit_concluded]
    case failing =>
      intro hexit
      obtain ⟨failure, hfailure⟩ := hfails.mp hexit
      refine ⟨failure, fun stamp => ⟨?_, ?_⟩⟩
      · exact (perform_of_failure world invocation hfailure).2 stamp
      · exact (perform_of_failure world' invocation' (hresult ▸ hfailure)).2 stamp
  case failing =>
    intro failure hfailure
    rw [hrun]
    exact perform_of_failure world invocation hfailure
  case quiet =>
    intro hquiet stamp
    rw [hrun, hzero, stderr_perform_of_quiet world invocation hquiet]
    refine ⟨fun hok => by rw [hok], fun failure hfailure => by rw [hfailure]⟩
  case fails => rw [hrun, hfails]
  case succeeds => rw [hrun, hzero, result_eq_ok_iff world invocation hsource]

/-- A setting asks for a log, and a switch for no colors. The run tells of the configuration and of
the error in its input before it fails. Without either it tells of the failure only, and there is no
other difference. -/
theorem logs_apart_setting : ∃ world world' : World,
    (run world {} ["--no-color", "tokens", "-"]).log =
        [.configurationLoaded "mlt.toml", .scanFailed (.invalidToken ".5" .start)] ∧
      (run world' {} ["tokens", "-"]).log = [] ∧
      (run world {} ["--no-color", "tokens", "-"]).Alike (run world' {} ["tokens", "-"]) := by
  let setting : Files := fun path =>
    if path = "mlt.toml" then .file "verbose = true\n".toUTF8 else .missing
  let world : World := { files := setting, stdin := ".5".toUTF8, places := ⟨none, none⟩ }
  let world' : World := { world with files := fun _ => .missing }
  have h : follow {} ["--no-color", "tokens", "-"] =
      .ok ⟨false, true, none, .tokens (some "-") none none false⟩ := by decide +kernel
  have h' : follow {} ["tokens", "-"] =
      .ok ⟨false, false, none, .tokens (some "-") none none false⟩ := by decide +kernel
  have honly : (Task.tokens (some "-") none none false).inputs = [.standardInput] := by
    decide +kernel
  refine ⟨world, world', by decide +kernel, by decide +kernel, ?_⟩
  refine ((logs_apart h).alike world' {} _ _ h' ⟨rfl, by decide +kernel, ?_⟩).1
  intro input hinput
  rw [honly] at hinput
  obtain rfl := List.mem_singleton.mp hinput
  rfl

end Program

end Lexis
