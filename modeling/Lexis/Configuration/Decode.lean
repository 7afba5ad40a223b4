import Lexis.Configuration.Basic
import Lexis.Toml.Document

/-!
# Configurations from TOML

A group of settings is a table whose keys are the names of the settings, or a list of their values
in order. Settings that are missing have their defaults, and whatever has no meaning is ignored. A
setting that is there must have the right type.
-/

namespace Lexis.Configuration

/-- The values of a list, in whichever way it is written. -/
def listItems? : Toml → Option (List Toml)
  | .array items => some items
  | .tables earlier last => some ((earlier ++ [last]).map (.table .header))
  | _ => none

/-- Says whether a value is an empty table or an empty list. -/
def isEmptyGroup : Toml → Bool
  | .table _ [] => true
  | .array [] => true
  | _ => false

/-- The truth value that a value stands for. -/
def boolean? : Toml → Option Bool
  | .boolean b => some b
  | _ => none

/-- The format that a value stands for: its word, or a table with the word as its only key and
nothing below it. -/
def format? : Toml → Option OutputFormat
  | .string word => OutputFormat.ofWord? word
  | .table _ [(word, below)] => if isEmptyGroup below then OutputFormat.ofWord? word else none
  | _ => none

/-- Looks up settings by name or by position. A date counts as a table without any settings. -/
def settings? (value : Toml) : Option (String → Nat → Option Toml) :=
  match value with
  | .table _ entries => some fun name _ => entries.lookup name
  | .moment _ => some fun _ _ => none
  | other => (listItems? other).map fun items _ position => items[position]?

/-- Reads a setting that may be missing. -/
def setting? {α : Type} (read : Toml → Option α) (default : α) : Option Toml → Option α
  | none => some default
  | some value => read value

/-- Reads the output settings. -/
def outputSettings? (value : Toml) : Option OutputSettings := do
  let settings ← settings? value
  let format ← setting? format? .text (settings "format" 0)
  let positions ← setting? boolean? false (settings "positions" 1)
  return { format, positions }

/-- Reads a configuration from the entries of a document. -/
def ofEntries? (entries : Toml.Entries) : Option Configuration := do
  let verbose ← setting? boolean? false (entries.lookup "verbose")
  let output ← setting? outputSettings? {} (entries.lookup "output")
  return { verbose, output }

/-- Reads a configuration from the text of a document. -/
def parse (source : String) : Except ConfigFault Configuration :=
  match Toml.document source with
  | .error fault => .error (.malformed (fault.message source.toList))
  | .ok entries =>
    match ofEntries? entries with
    | some configuration => .ok configuration
    | none => .error (.malformed "a setting has the wrong type or an unknown value")

end Lexis.Configuration
