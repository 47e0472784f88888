/-!
# TOML values

The data of a TOML document, as far as settings need it: numbers with a fraction and times are told
apart from everything else, but their values are not kept.

`Node` is a value under construction.  A table remembers how it came about, because that decides
whether it may be extended: by a header of its own, on the way to another header, or by a dotted
key.
-/

namespace Tabletop.Toml

/-- A TOML value. -/
inductive Value
  | str (s : String)
  | int (n : Int)
  /-- A number with a fraction or an exponent, an infinity or not a number. -/
  | float
  | bool (b : Bool)
  /-- A date, a time or both. -/
  | time
  | arr (items : List Value)
  | table (entries : List (String × Value))
deriving Repr, Inhabited

/-- How a table came about. -/
inductive Origin
  /-- By a header of its own. -/
  | header
  /-- On the way to the table of another header. -/
  | way
  /-- By a dotted key. -/
  | dotted
deriving DecidableEq, Repr

/-- A value of a document that is being read. -/
inductive Node
  /-- A value written out, which is complete. -/
  | value (v : Value)
  /-- A table. -/
  | table (origin : Origin) (entries : List (String × Node))
  /-- An array of tables, the newest first. -/
  | tables (elements : List (List (String × Node)))
deriving Repr, Inhabited

/-- The entries of a table under construction. -/
abbrev Entries := List (String × Node)

mutual

/-- The finished value. -/
def Node.finish : Node → Value
  | .value v => v
  | .table _ entries => .table (finishEntries entries)
  | .tables elements => .arr (finishElements elements)

/-- The finished entries of a table. -/
def finishEntries : List (String × Node) → List (String × Value)
  | [] => []
  | entry :: entries => (entry.1, entry.2.finish) :: finishEntries entries

/-- The finished elements of an array of tables. -/
def finishElements : List (List (String × Node)) → List Value
  | [] => []
  | element :: elements => finishElements elements ++ [.table (finishEntries element)]

end

/-- The entries with the node of a key replaced. -/
def replace (key : String) (node : Node) (entries : Entries) : Entries :=
  entries.map fun entry => if entry.1 == key then (key, node) else entry

/-- The entries with the table at a path changed by `change`, which is told whether that table comes
from a dotted key.  Tables that are missing on the path are created.  A dotted key may not pass
through the table of a header; nothing may pass through a complete value. -/
def changeAt (dotted : Bool) (change : Bool → Entries → Option Entries) :
    List String → Bool → Entries → Option Entries
  | [], isDotted, entries => change isDotted entries
  | key :: path, _, entries =>
    match entries.lookup key with
    | none => do
      let child ← changeAt dotted change path dotted []
      return entries ++ [(key, .table (if dotted then .dotted else .way) child)]
    | some (.value _) => none
    | some (.tables []) => none
    | some (.tables (newest :: older)) => do
      let child ← changeAt dotted change path false newest
      return replace key (.tables (child :: older)) entries
    | some (.table origin child) =>
      if dotted && origin == .header then none
      else do
        let child ← changeAt dotted change path (origin == .dotted) child
        return replace key (.table origin child) entries

/-- The entries with a table opened by a header. -/
def openTable (path : List String) (key : String) (entries : Entries) : Option Entries :=
  changeAt false (fun _ entries =>
    match entries.lookup key with
    | none => some (entries ++ [(key, .table .header [])])
    | some (.table .way child) => some (replace key (.table .header child) entries)
    | some _ => none) path false entries

/-- The entries with an element of an array of tables opened by a header. -/
def openElement (path : List String) (key : String) (entries : Entries) : Option Entries :=
  changeAt false (fun _ entries =>
    match entries.lookup key with
    | none => some (entries ++ [(key, .tables [[]])])
    | some (.tables elements) => some (replace key (.tables ([] :: elements)) entries)
    | some _ => none) path false entries

/-- The entries of a table with a value put under a dotted key.  The table it goes into has to come
from a dotted key too, unless it is the table itself. -/
def putValue (path : List String) (key : String) (v : Value) (entries : Entries) :
    Option Entries :=
  changeAt true (fun isDotted entries =>
    if isDotted == path.isEmpty then none
    else
      match entries.lookup key with
      | none => some (entries ++ [(key, .value v)])
      | some _ => none) path false entries

/-- The entries with a value put under a dotted key of the table at a location. -/
def putValueAt (location path : List String) (key : String) (v : Value) (entries : Entries) :
    Option Entries :=
  changeAt false (fun _ entries => putValue path key v entries) location false entries

end Tabletop.Toml
