import Lexis.Toml.Basic

/-!
# Growing tables

Keys and headers name places in a tree of tables. The tables on the way are made where they are
missing, and what is there already must be open to the kind of path that leads through it.
-/

namespace Lexis.Toml

/-- What names a path: a key with dots, or a header. -/
inductive Route where
  /-- A key with dots. -/
  | key
  /-- A header. -/
  | header
deriving DecidableEq, Repr

/-- The origin of the tables that a route makes on its way. -/
def Route.makes : Route → Origin
  | key => .dotted
  | header => .implied

/-- Says whether a route may lead through a table. Nothing is added to a table in braces, and a
key with dots adds nothing to a table that has its own header. -/
def Route.passes : Route → Origin → Bool
  | _, .inline => false
  | key, .header => false
  | _, _ => true

/-- The entries with a new value for a key that is there. -/
def setEntry (key : String) (value : Toml) (entries : Entries) : Entries :=
  entries.map fun (other, old) => if other = key then (other, value) else (other, old)

/-- Changes the table at the end of a path. The change is given the origin of the table and its
entries. There is no result if the path is blocked or the change is not possible. -/
def changeAt (route : Route) (change : Origin → Entries → Option Entries) :
    List String → Origin → Entries → Option Entries
  | [], origin, entries => change origin entries
  | key :: rest, _, entries =>
    match entries.lookup key with
    | none => do
      let below ← changeAt route change rest route.makes []
      return entries ++ [(key, .table route.makes below)]
    | some (.table origin below) =>
      if route.passes origin then do
        let below ← changeAt route change rest origin below
        return setEntry key (.table origin below) entries
      else none
    | some (.tables earlier last) => do
      let last ← changeAt route change rest .header last
      return setEntry key (.tables earlier last) entries
    | some _ => none

/-- Adds an entry to a table of the given origin. Its key must not be there yet, and a key with
dots adds entries only to tables that such keys have made. -/
def addEntry (path : Path) (value : Toml) (origin : Origin) (entries : Entries) : Option Entries :=
  let add (origin : Origin) (entries : Entries) : Option Entries :=
    if !path.parents.isEmpty && origin != .dotted then none
    else if (entries.lookup path.key).isSome then none
    else some (entries ++ [(path.key, value)])
  changeAt .key add path.parents origin entries

/-- Opens the table of a header. It must not be there yet, unless it is only implied so far. -/
def openTable (path : Path) (root : Entries) : Option Entries :=
  let enter (_ : Origin) (entries : Entries) : Option Entries :=
    match entries.lookup path.key with
    | none => some (entries ++ [(path.key, .table .header [])])
    | some (.table .implied below) => some (setEntry path.key (.table .header below) entries)
    | some _ => none
  changeAt .header enter path.parents .header root

/-- Opens one more table of a header in double brackets. -/
def openNext (path : Path) (root : Entries) : Option Entries :=
  let enter (_ : Origin) (entries : Entries) : Option Entries :=
    match entries.lookup path.key with
    | none => some (entries ++ [(path.key, .tables [] [])])
    | some (.tables earlier last) =>
      some (setEntry path.key (.tables (earlier ++ [last]) []) entries)
    | some _ => none
  changeAt .header enter path.parents .header root

/-- Adds an entry below the table that the latest header has opened. -/
def addBelow (opened : List String) (path : Path) (value : Toml) (root : Entries) :
    Option Entries :=
  changeAt .header (addEntry path value) opened .header root

end Lexis.Toml
