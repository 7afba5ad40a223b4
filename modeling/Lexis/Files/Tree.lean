import Lexis.Files.Basic

/-!
# Directory trees

A directory with all that is below it, given as a value. `Tree.files` answers for paths that start
in this directory. What lies outside of it is taken for empty directories.
-/

namespace Lexis

/-- A file or a directory. -/
inductive Tree where
  /-- A file with its bytes. -/
  | file (content : ByteArray)
  /-- A directory with its named entries. -/
  | directory (entries : List (String × Tree))

namespace Tree

/-- The directory without entries. -/
def empty : Tree :=
  .directory []

/-- Sets the entry of one name, which keeps its place if the name is there already. -/
def setEntry (name : String) (tree : Tree) : List (String × Tree) → List (String × Tree)
  | [] => [(name, tree)]
  | (other, old) :: rest =>
    if other = name then (name, tree) :: rest else (other, old) :: setEntry name tree rest

/-- Puts a tree at a path, given by its names, and makes the directories that lead to it. A
directory that is there already keeps its entries, and a file has none to put anything below. -/
def insert (tree : Tree) : List String → Tree → Tree
  | [], .directory entries =>
    match tree with
    | .directory [] => .directory entries
    | _ => tree
  | [], .file _ => tree
  | name :: rest, .directory entries =>
    let old := (entries.lookup name).getD empty
    .directory (setEntry name (insert tree rest old) entries)
  | _ :: _, .file content => .file content

/-- The names that a path consists of. -/
def names (path : String) : List String :=
  path.splitOn "/"

/-- The directory that holds the given trees at the given paths, put there one after the other. -/
def ofList (contents : List (String × Tree)) : Tree :=
  contents.foldl (fun root (path, tree) => insert tree (names path) root) empty

/-- Follows the names of a path from `here`, where `above` holds the directories from the parent of
`here` upwards. An empty name and a single dot stay where they are, two dots lead to the parent,
and all of them ask for a directory. -/
def walk (here : Tree) (above : List Tree) : List String → Option Tree
  | [] => some here
  | name :: rest =>
    match here with
    | .file _ => none
    | .directory entries =>
      if name = "" ∨ name = "." then walk here above rest
      else if name = ".." then walk (above.headD empty) above.tail rest
      else
        match entries.lookup name with
        | none => none
        | some below => walk below (here :: above) rest

/-- What lies at a path that starts in the given directory. There is nothing at the empty path. -/
def files (root : Tree) : Files := fun path =>
  let found :=
    if path = "" then none
    else if path.startsWith "/" then walk empty [] (names path)
    else walk root [] (names path)
  match found with
  | none => .missing
  | some (.directory _) => .directory
  | some (.file content) => .file content

end Tree

end Lexis
