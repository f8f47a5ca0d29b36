import Digitizer.Toml.Value

/-!
# Tables under construction

Dotted keys and headers both reach into tables and make the tables on their way. How a table came about decides what may
still be added to it: no key and no table is defined twice, dotted keys do not reopen tables that have a header, and headers
do not reopen tables made by dotted keys.
-/
namespace Digitizer.Toml

/-- How a table came about. -/
inductive Origin where
  /-- It has a header of its own, or is the document. -/
  | header
  /-- It lies on the way to a header. -/
  | way
  /-- It lies on the way of a dotted key. -/
  | dotted
  deriving DecidableEq, Repr

/-- What a key leads to while a document is read. -/
inductive Item where
  | value (v : Value)
  | table (origin : Origin) (entries : List (String × Item))
  /-- Tables with the same header in double brackets. -/
  | rows (tables : List (List (String × Item)))

/-- The entries of a table under construction. -/
abbrev Entries := List (String × Item)

namespace Entries

/-- Change what a key leads to, or add it at the end. -/
def put (key : String) (item : Item) : Entries → Entries
  | [] => [(key, item)]
  | (k, old) :: rest => if k = key then (key, item) :: rest else (k, old) :: put key item rest

/--
Change the table at the end of a path. Tables that are missing on the way are made with the given origin. Of tables with
double brackets the last one is meant. Values are no tables, and dotted keys do not pass tables that have a header.
-/
def alter (made : Origin) (change : Origin → Entries → Option Entries) :
    (path : List String) → Origin → Entries → Option Entries
  | [], origin, entries => change origin entries
  | key :: path, _, entries =>
    match entries.lookup key with
    | none => do
      let sub ← alter made change path made []
      some (put key (.table made sub) entries)
    | some (.value _) => none
    | some (.table origin sub) =>
      if made = .dotted ∧ origin = .header then none
      else do
        let sub ← alter made change path origin sub
        some (put key (.table origin sub) entries)
    | some (.rows tables) => do
      let sub ← alter made change path .header (tables.getLastD [])
      some (put key (.rows (tables.dropLast ++ [sub])) entries)

/--
Add a value under a dotted key. All but the last part of the key lead through tables, of which the last must be one that a
dotted key has made.
-/
def insert (path : List String) (key : String) (v : Value) (entries : Entries) : Option Entries :=
  alter .dotted (fun origin entries =>
    if (origin == .dotted) == path.isEmpty then none
    else if (entries.lookup key).isSome then none
    else some (put key (.value v) entries)) path .header entries

/-- Add values under dotted keys, each key given by its path and its last part. -/
def insertAll (pairs : List ((List String × String) × Value)) (entries : Entries) : Option Entries :=
  pairs.foldlM (fun entries ((path, key), v) => insert path key v entries) entries

/-- Fill the table of a header. It may be new, or lie on the way to an earlier header. -/
def openTable (path : List String) (key : String) (fill : Entries → Option Entries) (entries : Entries) :
    Option Entries :=
  alter .way (fun _ entries =>
    match entries.lookup key with
    | none => (fill []).map fun filled => put key (.table .header filled) entries
    | some (.table .way sub) => (fill sub).map fun filled => put key (.table .header filled) entries
    | some _ => none) path .header entries

/-- Fill a new table under a header in double brackets. -/
def openRow (path : List String) (key : String) (fill : Entries → Option Entries) (entries : Entries) :
    Option Entries :=
  alter .way (fun _ entries =>
    match entries.lookup key with
    | none => (fill []).map fun filled => put key (.rows [filled]) entries
    | some (.rows tables) => (fill []).map fun filled => put key (.rows (tables ++ [filled])) entries
    | some _ => none) path .header entries

end Entries

mutual

/-- The value of a finished item. -/
def Item.finish : Item → Value
  | .value v => v
  | .table _ entries => .table (finishEntries entries)
  | .rows tables => .array (finishRows tables)

/-- The values of finished entries. -/
def finishEntries : List (String × Item) → List (String × Value)
  | [] => []
  | (key, item) :: rest => (key, item.finish) :: finishEntries rest

/-- The values of finished tables. -/
def finishRows : List (List (String × Item)) → List Value
  | [] => []
  | entries :: rest => .table (finishEntries entries) :: finishRows rest

end

end Digitizer.Toml
