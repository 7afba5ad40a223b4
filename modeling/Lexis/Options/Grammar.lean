import Lexis.Command.Tokens

/-!
# The grammar of the command line

A command line consists of two levels: the words up to the name of a subcommand, and the words
after it. Each level knows its own switches and options; some are known to all.
-/

namespace Lexis.Options

/-- The level that a word stands on. -/
inductive Scope where
  /-- Before the name of a subcommand. -/
  | program
  /-- After the name of the subcommand that prints tokens. -/
  | tokens
  /-- After the name of the subcommand that checks files. -/
  | check
deriving DecidableEq, Repr

/-- A switch is given or not. -/
inductive Switch where
  /-- Log the course of the run. -/
  | verbose
  /-- Log without colors. -/
  | noColor
  /-- Write the places of tokens. -/
  | positions
deriving DecidableEq, Repr

/-- An option has a value. -/
inductive Setting where
  /-- The path of the configuration. -/
  | config
  /-- The source text itself. -/
  | expr
  /-- The format of the output. -/
  | format
deriving DecidableEq, Repr

/-- What can be asked for in place of a run. -/
inductive Notice where
  /-- How the program is used. -/
  | help
  /-- Its name and version. -/
  | version
deriving DecidableEq, Repr

/-- What a name with hyphens stands for. -/
inductive Name where
  /-- A switch. -/
  | switch (s : Switch)
  /-- An option. -/
  | setting (s : Setting)
  /-- A notice. -/
  | notice (n : Notice)
deriving DecidableEq, Repr

namespace Scope

/-- The subcommand with the given name. -/
def ofName? (name : String) : Option Scope :=
  if name = "tokens" then some tokens
  else if name = "check" then some check
  else none

/-- The name of the program at a level, as its version names it. -/
def title : Scope → String
  | program => "mlt"
  | tokens => "mlt-tokens"
  | check => "mlt-check"

/-- Says whether a switch is known at a level. -/
def hasSwitch : Scope → Switch → Bool
  | _, .verbose => true
  | _, .noColor => true
  | scope, .positions => scope == tokens

/-- Says whether an option is known at a level. -/
def hasSetting : Scope → Setting → Bool
  | _, .config => true
  | scope, .expr => scope == tokens
  | scope, .format => scope == tokens

/-- Says whether a name is known at a level. -/
def has (scope : Scope) : Name → Bool
  | .switch s => scope.hasSwitch s
  | .setting s => scope.hasSetting s
  | .notice _ => true

end Scope

namespace Name

/-- What a long name stands for on any level. -/
def ofLong? (name : String) : Option Name :=
  if name = "verbose" then some (switch .verbose)
  else if name = "no-color" then some (switch .noColor)
  else if name = "positions" then some (switch .positions)
  else if name = "config" then some (setting .config)
  else if name = "expr" then some (setting .expr)
  else if name = "format" then some (setting .format)
  else if name = "help" then some (notice .help)
  else if name = "version" then some (notice .version)
  else none

/-- What a letter stands for on any level. -/
def ofLetter? (letter : Char) : Option Name :=
  match letter with
  | 'v' => some (switch .verbose)
  | 'c' => some (setting .config)
  | 'e' => some (setting .expr)
  | 'F' => some (setting .format)
  | 'h' => some (notice .help)
  | 'V' => some (notice .version)
  | _ => none

end Name

namespace Scope

/-- What a long name stands for on a level. -/
def long? (scope : Scope) (name : List Char) : Option Name :=
  (Name.ofLong? (String.ofList name)).filter scope.has

/-- What a letter stands for on a level. -/
def letter? (scope : Scope) (letter : Char) : Option Name :=
  (Name.ofLetter? letter).filter scope.has

end Scope

namespace Switch

/-- The long name of a switch. -/
def long : Switch → String
  | verbose => "--verbose"
  | noColor => "--no-color"
  | positions => "--positions"

end Switch

namespace Setting

/-- The long name of an option. -/
def long : Setting → String
  | config => "--config"
  | expr => "--expr"
  | format => "--format"

end Setting

/-- Why a command line cannot be followed. -/
inductive Misuse where
  /-- A word is not known where it stands. -/
  | unknown (word : String)
  /-- A switch was given twice, or an option was. -/
  | repeated (name : String)
  /-- An option has no value. -/
  | valueMissing (setting : Setting)
  /-- A name that takes no value has one. -/
  | valueUnwanted (word : String)
  /-- A value is not one of those that are possible. -/
  | valueWrong (name value : String)
  /-- There is no subcommand. -/
  | noSubcommand
  /-- There are no files to check. -/
  | noFiles
  /-- Both a file and a text are given. -/
  | fileAndText
deriving DecidableEq, Repr

/-- The wording of a misuse. -/
def Misuse.message : Misuse → String
  | unknown word => s!"unexpected argument '{word}'"
  | repeated name => s!"{name} cannot be given twice"
  | valueMissing setting => s!"{setting.long} needs a value"
  | valueUnwanted word => s!"'{word}' has a value, but takes none"
  | valueWrong name value => s!"invalid value '{value}' for {name}"
  | noSubcommand => "a subcommand is needed: tokens or check"
  | noFiles => "check needs at least one file"
  | fileAndText => "a file cannot be given together with --expr"

end Lexis.Options
