/-!
# Files

All that a run asks of a file system is what lies at a path. `Files` is the answer for every path,
as it stands during the whole run.
-/

namespace Lexis

/-- What lies at a path. -/
inductive Entry where
  /-- Nothing, or nothing that can be reached. -/
  | missing
  /-- A directory, or something else that is not a file. -/
  | directory
  /-- A file with its bytes. -/
  | file (content : ByteArray)
  /-- A file that cannot be read, and why. -/
  | unreadable (reason : String)

/-- What lies at each path. -/
abbrev Files := String → Entry

/-- Says whether there is anything at a path. -/
def Files.has (files : Files) (path : String) : Bool :=
  match files path with
  | .missing => false
  | _ => true

end Lexis
