import DeskView.Toml.Value

/-!
# Building the tables of a document

A document writes its tables in pieces: under headers, by dotted keys, and several times over for a
list of tables.  A `Node` remembers how a table came to be, because that decides what may still be
added to it:

* an *implicit* table was only named on the way to another one; its own header may still follow;
* a *dotted* table was made by a dotted key; it can be added to by dotted keys only.

No table is written twice and no key is given twice.
-/

namespace DeskView.Toml

/-- A part of a document that is being built. -/
inductive Node where
  /-- A finished value. -/
  | value (v : Value)
  /-- A table. -/
  | table (implicit dotted : Bool) (entries : List (String × Node))
  /-- A list of tables. -/
  | tables (elements : List (List (String × Node)))

/-- The entries of a table that is being built. -/
abbrev Entries := List (String × Node)

namespace Entries

/-- The entries with another node under a key that is there. -/
def replace (key : String) (node : Node) (entries : Entries) : Entries :=
  entries.map fun entry => if entry.1 = key then (key, node) else entry

/-- Goes down a path of keys and changes the table at its end.  `change` is told whether that table
is dotted, and answers something besides the new entries.  Tables that are missing on the way are
made, implicit ones, and dotted if the path comes from a dotted key (`byDots`); the path leads into
the last table of a list. -/
def descend {α : Type} (byDots : Bool) (change : Bool → Entries → Option (α × Entries)) :
    (path : List String) → (dotted : Bool) → Entries → Option (α × Entries)
  | [], dotted, entries => change dotted entries
  | key :: path, _, entries =>
    match lookup key entries with
    | none => do
      let (a, below) ← descend byDots change path byDots []
      some (a, entries ++ [(key, .table true byDots below)])
    | some (.value _) => none
    | some (.tables elements) => do
      let last ← elements.getLast?
      let (a, below) ← descend byDots change path false last
      some (a, entries.replace key (.tables (elements.dropLast ++ [below])))
    | some (.table implicit dotted below) =>
      if byDots && !implicit then none
      else do
        let (a, below) ← descend byDots change path dotted below
        some (a, entries.replace key (.table implicit dotted below))

/-- Adds a value under a key that is not there yet. -/
def add (key : String) (node : Node) (entries : Entries) : Option Entries :=
  match lookup key entries with
  | none => some (entries ++ [(key, node)])
  | some _ => none

/-- Adds a value under a dotted key.  The table that it goes to must have been made by dotted keys,
unless the key has no dot. -/
def insert (path : List String) (key : String) (v : Value) (entries : Entries) : Option Entries :=
  (descend true (fun dotted below =>
    if dotted = path.isEmpty then none
    else (below.add key (.value v)).map fun below => ((), below)) path false entries).map (·.2)

end Entries

mutual

/-- The value that a node has become. -/
def Node.toValue : Node → Value
  | .value v => v
  | .table _ _ entries => .table (entriesToValues entries)
  | .tables elements => .array (elementsToValues elements)

/-- The values that entries have become. -/
def entriesToValues : List (String × Node) → List (String × Value)
  | [] => []
  | (key, node) :: rest => (key, node.toValue) :: entriesToValues rest

/-- The values that a list of tables has become. -/
def elementsToValues : List (List (String × Node)) → List Value
  | [] => []
  | entries :: rest => .table (entriesToValues entries) :: elementsToValues rest

end

/-! ### Headers -/

/-- A document that is being read: the tables that are finished, and the one that is being
written. -/
structure Draft where
  /-- The finished tables. -/
  root : Entries := []
  /-- The keys of the header of the current table; none for the table at the top. -/
  path : List String := []
  /-- Whether the current table is one of a list. -/
  inList : Bool := false
  /-- The entries of the current table. -/
  current : Entries := []

namespace Draft

/-- Puts a finished table under the last key of its header. -/
def place (inList : Bool) (current : Entries) (key : String) (entries : Entries) :
    Option (Unit × Entries) :=
  match inList, lookup key entries with
  | true, none => some ((), entries ++ [(key, .tables [current])])
  | true, some (.tables elements) =>
    some ((), entries.replace key (.tables (elements ++ [current])))
  | false, none => some ((), entries ++ [(key, .table false false current)])
  | false, some (.table true _ _) => some ((), entries.replace key (.table false false current))
  | _, _ => none

/-- All tables, the current one put in its place. -/
def finish (d : Draft) : Option Entries :=
  match d.path.getLast? with
  | none => some d.current
  | some key =>
    (Entries.descend false (fun _ => place d.inList d.current key) d.path.dropLast false
      d.root).map (·.2)

/-- What a new header finds under its last key: the entries to go on with, and the table around it
without them. -/
def takeOver (inList : Bool) (key : String) (entries : Entries) : Option (Entries × Entries) :=
  match inList, lookup key entries with
  | true, none => some ([], entries ++ [(key, .tables [])])
  | true, some (.tables _) => some ([], entries)
  | false, none => some ([], entries)
  | false, some (.table true false below) =>
    some (below, entries.filter fun entry => entry.1 ≠ key)
  | _, _ => none

/-- Finishes the current table and begins the one of a header. -/
def openTable (d : Draft) (inList : Bool) (path : List String) : Option Draft := do
  let root ← d.finish
  let key ← path.getLast?
  let (current, root) ←
    Entries.descend false (fun _ => takeOver inList key) path.dropLast false root
  some { root, path, inList, current }

/-- Adds a value to the current table. -/
def insert (d : Draft) (path : List String) (key : String) (v : Value) : Option Draft :=
  (d.current.insert path key v).map fun current => { d with current }

end Draft

end DeskView.Toml
