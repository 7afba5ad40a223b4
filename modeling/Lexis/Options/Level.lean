import Lexis.Options.Grammar
import Lexis.Options.Word

/-!
# Reading one level

The words of a level are read from first to last. The value of an option may be a word of its own,
and is judged only when the next name is met or the level ends. A notice ends the reading at once,
so that it is given whatever comes after it.
-/

namespace Lexis.Options

/-- What is given on one level. -/
structure Given where
  /-- The switches that are on. -/
  switches : List Switch := []
  /-- The path of a configuration. -/
  config : Option String := none
  /-- A source text. -/
  expr : Option String := none
  /-- A format. -/
  format : Option OutputFormat := none
  /-- The paths of files. -/
  operands : List String := []
deriving DecidableEq, Repr

/-- An option whose value was not judged yet. -/
inductive Pending where
  /-- There is none. -/
  | nothing
  /-- The next plain word is the value. -/
  | expected (setting : Setting)
  /-- The value is there. -/
  | present (setting : Setting) (value : String)
deriving DecidableEq, Repr

/-- A level that is being read. -/
structure Level where
  /-- Which level it is. -/
  scope : Scope
  /-- What was given so far. -/
  given : Given := {}
  /-- The latest option, if its value was not judged yet. -/
  pending : Pending := .nothing
deriving DecidableEq, Repr

/-- Why the reading of a level ends early. -/
inductive Stop where
  /-- The words cannot be followed. -/
  | misuse (m : Misuse)
  /-- A notice is asked for. -/
  | notice (scope : Scope) (n : Notice)
deriving DecidableEq, Repr

namespace Given

/-- Takes in a switch. -/
def addSwitch (given : Given) (switch : Switch) : Except Stop Given :=
  if given.switches.contains switch then .error (.misuse (.repeated switch.long))
  else .ok { given with switches := switch :: given.switches }

/-- Takes in an option. -/
def addSetting (given : Given) (setting : Setting) (value : String) : Except Stop Given :=
  let wrong : Except Stop Given := .error (.misuse (.valueWrong setting.long value))
  let repeated : Except Stop Given := .error (.misuse (.repeated setting.long))
  match setting with
  | .config =>
    if given.config.isSome then repeated
    else if value.isEmpty then wrong
    else .ok { given with config := some value }
  | .expr => if given.expr.isSome then repeated else .ok { given with expr := some value }
  | .format =>
    if given.format.isSome then repeated
    else
      match OutputFormat.ofWord? value with
      | some format => .ok { given with format := some format }
      | none => wrong

/-- Takes in an operand. Tokens are printed of one file only, and no path is empty. -/
def addOperand (given : Given) (scope : Scope) (word : String) : Except Stop Given :=
  if scope = .program ∨ (scope = .tokens ∧ !given.operands.isEmpty) then
    .error (.misuse (.unknown word))
  else if word.isEmpty then .error (.misuse (.valueWrong "a path" word))
  else .ok { given with operands := given.operands ++ [word] }

end Given

namespace Level

/-- Judges the value of the latest option. -/
def settle (level : Level) : Except Stop Level :=
  match level.pending with
  | .nothing => .ok level
  | .expected setting => .error (.misuse (.valueMissing setting))
  | .present setting value => do
    return { level with given := ← level.given.addSetting setting value, pending := .nothing }

/-- Takes in an option with the value that is attached to it, or without one. -/
def withSetting (level : Level) (setting : Setting) (value? : Option (List Char)) :
    Except Stop Level := do
  let level ← level.settle
  match value? with
  | none => return { level with pending := .expected setting }
  | some value =>
    return { level with given := ← level.given.addSetting setting (String.ofList value) }

/-- Takes in a switch or a notice. -/
def withName (level : Level) : Name → Except Stop Level
  | .switch switch => do
    let level ← level.settle
    return { level with given := ← level.given.addSwitch switch }
  | .notice n => do
    let level ← level.settle
    .error (.notice level.scope n)
  | .setting setting => level.withSetting setting none

/-- Takes in a long name. -/
def withLong (level : Level) (name : List Char) (value? : Option (List Char)) :
    Except Stop Level :=
  match level.scope.long? name, value? with
  | none, _ => .error (.misuse (.unknown (String.ofList ('-' :: '-' :: name))))
  | some (.setting setting), value? => level.withSetting setting value?
  | some other, none => level.withName other
  | some _, some _ => .error (.misuse (.valueUnwanted (String.ofList ('-' :: '-' :: name))))

/-- The value that is attached to the letter of an option. One equals sign may stand between. -/
def attached? : List Char → Option (List Char)
  | [] => none
  | '=' :: value => some value
  | value => some value

/-- Takes in a cluster of letters. An option takes the rest of the cluster as its value. -/
def withCluster (level : Level) : List Char → Except Stop Level
  | [] => .ok level
  | letter :: rest =>
    match level.scope.letter? letter with
    | none => .error (.misuse (.unknown (String.ofList ['-', letter])))
    | some (.setting setting) => level.withSetting setting (attached? rest)
    | some other => do (← level.withName other).withCluster rest

/-- Takes in an operand. It also judges the latest option. -/
def withOperand (level : Level) (word : String) : Except Stop Level := do
  let level ← level.settle
  return { level with given := ← level.given.addOperand level.scope word }

/-- Takes in operands only, whatever they look like. -/
def readOperands (level : Level) : List String → Except Stop Level
  | [] => .ok level
  | word :: later => do (← level.withOperand word).readOperands later

end Level

/-- A level after its words. -/
structure LevelEnd where
  /-- The level. -/
  level : Level
  /-- The subcommand that ended it and the words after that. -/
  subcommand : Option (String × List String)

namespace Level

/-- Reads the words of a level. The first level ends with the first plain word that is not the
value of an option. -/
def readWords (level : Level) : List String → Except Stop LevelEnd
  | [] => .ok { level, subcommand := none }
  | word :: later =>
    match Word.ofChars word.toList with
    | .separator => do return { level := ← level.readOperands later, subcommand := none }
    | .long name value? => do (← level.withLong name value?).readWords later
    | .cluster first rest => do (← level.withCluster (first :: rest)).readWords later
    | .plain =>
      match level.pending with
      | .expected setting => { level with pending := .present setting word }.readWords later
      | _ =>
        if level.scope = .program then .ok { level, subcommand := some (word, later) }
        else do (← level.withOperand word).readWords later

end Level

end Lexis.Options
