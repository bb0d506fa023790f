import DatasetSchema.Toml.Value

/-!
# Tables under construction

A TOML document says piece by piece what its tables hold. A table is opened by a header, or by a
dotted key, or it is only implied by a header for a table inside it. A table can be opened by a
header once, and only dotted keys of one place go on filling what a dotted key has opened. Tables
and arrays that are written as values are complete.
-/

namespace DatasetSchema.Toml

/-- How a table came to be. -/
inductive TableOrigin where
  /-- It has a header of its own. -/
  | header
  /-- It lies on the way to a table with a header. -/
  | implied
  /-- It lies on the way of a dotted key. -/
  | dotted
  deriving DecidableEq, Repr

/-- What a key of a table under construction has. -/
inductive Entry where
  /-- A complete value. -/
  | value (value : Value)
  /-- A table that can still grow. -/
  | table (origin : TableOrigin) (entries : List (String × Entry))
  /-- An array of tables, of which the last one can still grow. -/
  | tables (complete : List Value) (last : List (String × Entry))
  deriving Repr

/-- A table under construction. -/
abbrev Entries := List (String × Entry)

mutual

/-- The value that an entry has in the end. -/
def Entry.finish : Entry → Value
  | .value value => value
  | .table _ entries => .table (finishEntries entries)
  | .tables complete last => .array (complete ++ [.table (finishEntries last)])

/-- The entries of a table in the end. -/
def finishEntries : List (String × Entry) → List (String × Value)
  | [] => []
  | (key, entry) :: entries => (key, entry.finish) :: finishEntries entries

end

namespace Entries

/-- The table with another entry for a key that it has. -/
def replace (entries : Entries) (key : String) (entry : Entry) : Entries :=
  entries.map fun e => if e.1 == key then (key, entry) else e

/-- Changes the table that a path leads to. Tables that are not there are made: by a dotted key if
`dotted`, otherwise implied by a header. A dotted key does not lead through tables with headers. -/
def change? (dotted : Bool) (act : TableOrigin → Entries → Option (TableOrigin × Entries)) :
    List String → TableOrigin → Entries → Option (TableOrigin × Entries)
  | [], origin, entries => act origin entries
  | key :: path, origin, entries =>
    match entries.lookup key with
    | none =>
      (change? dotted act path (if dotted then .dotted else .implied) []).map
          fun (inner, changed) =>
        (origin, entries ++ [(key, .table inner changed)])
    | some (.table inner old) =>
      if dotted && inner == .header then none
      else
        (change? dotted act path inner old).map fun (inner, changed) =>
          (origin, entries.replace key (.table inner changed))
    -- Into a list of tables a key leads by way of the last one.
    | some (.tables complete last) =>
      (change? dotted act path .header last).map fun (_, changed) =>
        (origin, entries.replace key (.tables complete changed))
    | some (.value _) => none

/-- Gives a value to a key that has none yet; `isDotted` tells whether the key is dotted. A dotted
key must lead to a table that dotted keys made, and any other key to one that has a header. -/
def insertValue? (isDotted : Bool) (key : String) (value : Value) (origin : TableOrigin)
    (entries : Entries) : Option (TableOrigin × Entries) :=
  if (origin == .dotted) != isDotted || (entries.lookup key).isSome then none
  else some (origin, entries ++ [(key, .value value)])

/-- Opens a table by its header. -/
def openTable? (key : String) (origin : TableOrigin) (entries : Entries) :
    Option (TableOrigin × Entries) :=
  match entries.lookup key with
  | none => some (origin, entries ++ [(key, .table .header [])])
  | some (.table .implied inner) => some (origin, entries.replace key (.table .header inner))
  | some _ => none

/-- Adds a table to an array of tables by its header. -/
def addTable? (key : String) (origin : TableOrigin) (entries : Entries) :
    Option (TableOrigin × Entries) :=
  match entries.lookup key with
  | none => some (origin, entries ++ [(key, .tables [] [])])
  | some (.tables complete last) =>
    let complete := complete ++ [.table (finishEntries last)]
    some (origin, entries.replace key (.tables complete []))
  | some _ => none

/-- The table after a key with a value under a header. The key is a path and a last name. -/
def addPair? (entries : Entries) (header path : List String) (key : String) (value : Value) :
    Option Entries :=
  let insert := change? true (insertValue? (!path.isEmpty) key value) path
  (change? false insert header .header entries).map Prod.snd

end Entries

end DatasetSchema.Toml
