import Lexis.Command.Tokens
import Lexis.Json.Writer

/-!
# Configurations

What a user may settle once for all runs. Whatever is not settled has a default.
-/

namespace Lexis

/-- How tokens are written unless the command line says otherwise. -/
structure OutputSettings where
  /-- The format of the output. -/
  format : OutputFormat := .text
  /-- Says whether a line of text begins with the place of its token. -/
  positions : Bool := false
deriving DecidableEq, Repr

/-- The settings of a user. -/
structure Configuration where
  /-- Says whether the course of a run is logged. -/
  verbose : Bool := false
  /-- How tokens are written. -/
  output : OutputSettings := {}
deriving DecidableEq, Repr

namespace Configuration

/-- The configuration as a TOML document. -/
def toToml (c : Configuration) : String :=
  s!"verbose = {Json.booleanWord c.verbose}\n\n[output]\nformat = \"{c.output.format.word}\"\n"
    ++ s!"positions = {Json.booleanWord c.output.positions}\n"

/-- The configuration as a JSON value. -/
def toJson (c : Configuration) : Json :=
  .object
    [("verbose", .boolean c.verbose),
      ("output",
        .object
          [("format", .text c.output.format.word), ("positions", .boolean c.output.positions)])]

end Configuration

end Lexis
