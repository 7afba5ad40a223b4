import Lexis.Options.Level

/-!
# Command lines

A command line is followed level by level. What is known to both levels may be given on either,
and where neither gives it a variable of the environment may. A level is judged as a whole when
its words are read, the inner one before the outer one.
-/

namespace Lexis.Options

/-- The variables of the environment that stand in for words. -/
structure Environment where
  /-- Stands in for the switch that asks for logging. -/
  verbose : Option String := none
  /-- Stands in for the switch that asks for no colors. -/
  noColor : Option String := none
  /-- Stands in for the path of a configuration. -/
  config : Option String := none
deriving DecidableEq, Repr

/-- A value and where it comes from. -/
inductive Sourced (α : Type) where
  /-- The value is given by words. -/
  | words (a : α)
  /-- The value is given by a variable. -/
  | environment (a : α)
  /-- There is no value. -/
  | absent
deriving DecidableEq, Repr

namespace Sourced

/-- The value, if there is one. -/
def value? {α : Type} : Sourced α → Option α
  | words a => some a
  | environment a => some a
  | absent => none

/-- The value that holds for two levels. Words win over variables, and the inner level wins over
the outer one. -/
def merge {α : Type} : Sourced α → Sourced α → Sourced α
  | words a, environment _ => words a
  | words a, absent => words a
  | environment a, absent => environment a
  | _, inner => inner

end Sourced

/-- What may be given on both levels. -/
structure Common where
  /-- Says whether the course of the run is logged. -/
  verbose : Sourced Bool
  /-- Says whether it is logged without colors. -/
  noColor : Sourced Bool
  /-- The path of the configuration. -/
  config : Sourced String
deriving DecidableEq, Repr

namespace Common

/-- What holds for two levels, the outer one first. -/
def merge (outer inner : Common) : Common where
  verbose := outer.verbose.merge inner.verbose
  noColor := outer.noColor.merge inner.noColor
  config := outer.config.merge inner.config

end Common

/-- A switch that words may give, and a variable otherwise. The variable must be a truth value. -/
def commonSwitch (given : Given) (switch : Switch) (fallback? : Option String) :
    Except Stop (Sourced Bool) :=
  if given.switches.contains switch then .ok (.words true)
  else
    match fallback? with
    | none => .ok .absent
    | some word =>
      if word = "true" then .ok (.environment true)
      else if word = "false" then .ok (.environment false)
      else .error (.misuse (.valueWrong switch.long word))

/-- The path of a configuration that words may give, and a variable otherwise. -/
def commonConfig (given : Given) (fallback? : Option String) : Except Stop (Sourced String) :=
  match given.config, fallback? with
  | some path, _ => .ok (.words path)
  | none, none => .ok .absent
  | none, some path =>
    if path.isEmpty then .error (.misuse (.valueWrong Setting.config.long path))
    else .ok (.environment path)

/-- What a level gives that may be given on both. -/
def Given.common (given : Given) (env : Environment) : Except Stop Common := do
  let verbose ← commonSwitch given .verbose env.verbose
  let noColor ← commonSwitch given .noColor env.noColor
  let config ← commonConfig given env.config
  return { verbose, noColor, config }

/-- What a subcommand is to do. -/
inductive Task where
  /-- Print the tokens of a source. -/
  | tokens (file expr : Option String) (format : Option OutputFormat) (positions : Bool)
  /-- Check files. -/
  | check (files : List String)
deriving DecidableEq, Repr

/-- The task of a subcommand, from what is given after its name. -/
def Given.task (given : Given) : Scope → Except Stop Task
  | .program => .error (.misuse .noSubcommand)
  | .tokens =>
    let file := given.operands.head?
    if file.isSome ∧ given.expr.isSome then .error (.misuse .fileAndText)
    else .ok (.tokens file given.expr given.format (given.switches.contains .positions))
  | .check =>
    if given.operands.isEmpty then .error (.misuse .noFiles) else .ok (.check given.operands)

/-- What a command line asks to be done. -/
structure Invocation where
  /-- Says whether the course of the run is logged. -/
  verbose : Bool
  /-- Says whether it is logged without colors. -/
  noColor : Bool
  /-- The path of the configuration. -/
  config : Option String
  /-- What is to be done. -/
  task : Task
deriving DecidableEq, Repr

/-- Follows the words after the name of a subcommand. -/
def followSubcommand (env : Environment) (scope : Scope) (words : List String) :
    Except Stop (Common × Task) := do
  let { level, .. } ← ({ scope := scope } : Level).readWords words
  let level ← level.settle
  let common ← level.given.common env
  let task ← level.given.task scope
  return (common, task)

/-- The level that a request for help is about. -/
def helpScope? : List String → Option Scope
  | [] => some .program
  | [name] => if name = "help" then some .program else Scope.ofName? name
  | _ => none

/-- The subcommand that gives help about the given words. -/
def helpAbout (words : List String) : Stop :=
  match helpScope? words with
  | some scope => .notice scope .help
  | none => .misuse (.unknown (" ".intercalate words))

/-- Follows a command line. -/
def follow (env : Environment) (words : List String) : Except Stop Invocation := do
  let { level, subcommand } ← ({ scope := .program } : Level).readWords words
  match subcommand with
  | none => .error (.misuse .noSubcommand)
  | some (name, later) =>
    if name = "help" then .error (helpAbout later)
    else
      match Scope.ofName? name with
      | none => .error (.misuse (.unknown name))
      | some scope =>
        let (inner, task) ← followSubcommand env scope later
        let level ← level.settle
        let outer ← level.given.common env
        let common := outer.merge inner
        return {
          verbose := common.verbose.value?.getD false
          noColor := common.noColor.value?.getD false
          config := common.config.value?
          task := task }

end Lexis.Options
