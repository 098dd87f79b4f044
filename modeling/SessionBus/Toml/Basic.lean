/-!
# TOML documents

A document is a table, whose entries are values, further tables, or lists of tables.  A table
remembers how it came to be, because this decides what may still be added to it: the table of a
header and an inline table are complete in what they define, the tables that a longer name implies
can still be defined or extended.

The operations give nothing where an entry would be defined twice or is no table.
-/

namespace SessionBus.Toml

/-- How a table came to be. -/
inductive Origin where
  | header
  | impliedByHeader
  | impliedByKey
  | inline
deriving DecidableEq, Repr

/-- An entry of a document.  Of floating-point numbers and dates only the kind is kept. -/
inductive Node where
  | string (text : String)
  | integer (n : Int)
  | float
  | bool (b : Bool)
  | date
  | array (items : List Node)
  | table (origin : Origin) (entries : List (String × Node))
  | tables (list : List (List (String × Node)))
deriving Repr

/-- The entries of a table in the order in which they came. -/
abbrev Entries := List (String × Node)

namespace Entries

/-- The entries with another node under a name that they have. -/
def replace (entries : Entries) (name : String) (node : Node) : Entries :=
  entries.map fun entry => if entry.1 = name then (name, node) else entry

/-- The entries with a node under a new name. -/
def insert? (entries : Entries) (name : String) (node : Node) : Option Entries :=
  match entries.lookup name with
  | some _ => none
  | none => some (entries ++ [(name, node)])

/-- Changes the table at the end of the path of a header.  Tables on the way that are not there are
implied, and of a list of tables the last one counts. -/
def within? (change : Entries → Option Entries) : List String → Entries → Option Entries
  | [], entries => change entries
  | name :: path, entries =>
    match entries.lookup name with
    | none => do
      let inner ← within? change path []
      return entries ++ [(name, .table .impliedByHeader inner)]
    | some (.table .inline _) => none
    | some (.table origin inner) => do
      let inner ← within? change path inner
      return entries.replace name (.table origin inner)
    | some (.tables list) =>
      match list.getLast? with
      | none => none
      | some last => do
        let inner ← within? change path last
        return entries.replace name (.tables (list.dropLast ++ [inner]))
    | some _ => none

/-- Defines a value under a key of several names.  The tables on the way must be implied, and the
last of them by a key. -/
def define? (name : String) (value : Node) : List String → Entries → Option Entries
  | [], entries => entries.insert? name value
  | first :: path, entries =>
    match entries.lookup first with
    | none => do
      let inner ← define? name value path []
      return entries ++ [(first, .table .impliedByKey inner)]
    | some (.table .impliedByKey inner) => do
      let inner ← define? name value path inner
      return entries.replace first (.table .impliedByKey inner)
    | some (.table .impliedByHeader inner) =>
      if path.isEmpty then none
      else do
        let inner ← define? name value path inner
        return entries.replace first (.table .impliedByHeader inner)
    | some (.tables list) =>
      match list.getLast? with
      | none => none
      | some last =>
        if path.isEmpty then none
        else do
          let inner ← define? name value path last
          return entries.replace first (.tables (list.dropLast ++ [inner]))
    | some _ => none

/-- Opens the table of a header, which may so far only be implied by longer headers. -/
def openTable? (name : String) (entries : Entries) : Option Entries :=
  match entries.lookup name with
  | none => some (entries ++ [(name, .table .header [])])
  | some (.table .impliedByHeader inner) => some (entries.replace name (.table .header inner))
  | some _ => none

/-- Opens one more table in a list of tables. -/
def openListed? (name : String) (entries : Entries) : Option Entries :=
  match entries.lookup name with
  | none => some (entries ++ [(name, .tables [[]])])
  | some (.tables list) => some (entries.replace name (.tables (list ++ [[]])))
  | some _ => none

end Entries

end SessionBus.Toml
