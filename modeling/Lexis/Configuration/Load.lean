import Lexis.Configuration.Decode

/-!
# Finding the configuration

Without a path the configuration is looked for in the current directory, then in the home
directory, and then where the system keeps configurations. It need not be anywhere.
-/

namespace Lexis.Configuration

/-- The name of the file that holds a configuration. -/
def fileName : String := "mlt.toml"

/-- The directories in which configurations of users are kept. -/
structure Places where
  /-- The home directory of the user. -/
  home : Option String
  /-- The directory for configurations that the system names, if it is absolute. -/
  named : Option String

/-- The path of a name below a directory. -/
def below (directory name : String) : String :=
  if directory.endsWith "/" then directory ++ name else directory ++ "/" ++ name

namespace Places

/-- The directory for configurations: the one that the system names, or the usual one. -/
def configurations (places : Places) : Option String :=
  places.named <|> places.home.map (below · ".config")

/-- The paths at which a configuration is looked for, in that order. -/
def candidates (places : Places) : List String :=
  let inHome := places.home.map fun home => below home (".config/mlt/" ++ fileName)
  let inSystem := places.configurations.map fun directory => below directory ("mlt/" ++ fileName)
  fileName :: (inHome.toList ++ inSystem.toList)

/-- The first of the paths at which there is something. -/
def find? (places : Places) (files : Files) : Option String :=
  places.candidates.find? files.has

end Places

/-- Loads the configuration at a path. -/
def load (files : Files) (path : String) : Except Failure Configuration :=
  match files path with
  | .missing => .error (.configuration (.notFound path))
  | .directory => .error (.device .isDirectory)
  | .unreadable reason => .error (.device (.stated reason))
  | .file content => do
    let source ← decodeText content
    (parse source).mapError .configuration

/-- Loads the configuration at the given path, or else where one is found, and says where that was.
Without any the defaults hold. -/
def locate (files : Files) (places : Places) (path? : Option String) :
    Except Failure (Configuration × Option String) :=
  match path? <|> places.find? files with
  | none => .ok ({}, none)
  | some path => (load files path).map fun configuration => (configuration, some path)

end Lexis.Configuration
