import FactoryGen.Document.Basic

/-! Tables while they are written.

A TOML text may come back to a table, within limits. A table that was only passed
through on the way to another may still get a header of its own; one that came to
be by a dotted key may be extended by dotted keys beside the first, but not by a
header; one that had its header is complete except for its direct entries, and a
value is complete at once. Lists of tables grow by headers, and paths that lead
through such a list lead through its last table. -/
namespace FactoryGen.Toml

/-- How a table came to be. -/
inductive Origin where
  /-- A header passes through it. -/
  | passed
  /-- A dotted key passes through it. -/
  | dotted
  /-- It has a header. -/
  | headed
deriving DecidableEq, Repr

/-- What stands under a key. -/
inductive Entry where
  | value (document : Document)
  | table (origin : Origin) (entries : List (String × Entry))
  /-- A list of tables: the last one, and the finished ones before it from the last
  to the first. -/
  | tables (finished : List Document) (last : List (String × Entry))

abbrev Table := List (String × Entry)

/-- An entry put in its place among entries with smaller and greater keys. -/
def insertSorted (key : String) (document : Document) :
    List (Option String × Document) → List (Option String × Document)
  | [] => [(some key, document)]
  | (k, d) :: rest =>
    if k.any (· < key) then (k, d) :: insertSorted key document rest
    else (some key, document) :: (k, d) :: rest

mutual

/-- An entry as a document. The entries of tables are looked at in the order of their
keys. -/
def Entry.document : Entry → Document
  | .value document => document
  | .table _ entries => .table (sortedEntries entries)
  | .tables finished last => .list (finished.reverse ++ [.table (sortedEntries last)])

/-- Entries as documents, in the order of their keys. -/
def sortedEntries : List (String × Entry) → List (Option String × Document)
  | [] => []
  | (key, entry) :: rest => insertSorted key entry.document (sortedEntries rest)

end

namespace Table

def find? (table : Table) (key : String) : Option Entry :=
  (List.find? (·.1 == key) table).map (·.2)

/-- The table with an entry under a key, in place of the one that was there. -/
def put (table : Table) (key : String) (entry : Entry) : Table :=
  (key, entry) :: table.filter (·.1 != key)

def document (table : Table) : Document := .table (sortedEntries table)

/-- The table with a value under a dotted key. A table that a key passes through must
have come to be that way, except that there may be others further out. -/
def assign (value : Document) : List String → Table → Option Table
  | [], _ => none
  | [key], table =>
    match table.find? key with
    | none => some (table.put key (.value value))
    | some _ => none
  | key :: next :: rest, table =>
    match table.find? key with
    | none =>
      (assign value (next :: rest) []).map fun inner => table.put key (.table .dotted inner)
    | some (.table .dotted inner) =>
      (assign value (next :: rest) inner).map fun inner => table.put key (.table .dotted inner)
    | some (.table .passed inner) =>
      if rest.isEmpty then none
      else
        (assign value (next :: rest) inner).map fun inner => table.put key (.table .passed inner)
    | some _ => none

/-- The table with a change made to the table that a header leads to. -/
def within (change : Table → Option Table) : List String → Table → Option Table
  | [], table => change table
  | key :: rest, table =>
    match table.find? key with
    | none => (within change rest []).map fun inner => table.put key (.table .passed inner)
    | some (.table origin inner) =>
      (within change rest inner).map fun inner => table.put key (.table origin inner)
    | some (.tables finished last) =>
      (within change rest last).map fun last => table.put key (.tables finished last)
    | some (.value _) => none

/-- The table with a header for one of its entries. -/
def head (key : String) (table : Table) : Option Table :=
  match table.find? key with
  | none => some (table.put key (.table .headed []))
  | some (.table .passed inner) => some (table.put key (.table .headed inner))
  | some _ => none

/-- The table with one more table in the list under a key. -/
def extend (key : String) (table : Table) : Option Table :=
  match table.find? key with
  | none => some (table.put key (.tables [] []))
  | some (.tables finished last) =>
    some (table.put key (.tables (Table.document last :: finished) []))
  | some _ => none

/-- The table with a change made for the last key of a header. -/
def atHeader (change : String → Table → Option Table) (header : List String) (table : Table) :
    Option Table :=
  match header.getLast? with
  | some key => table.within (change key) header.dropLast
  | none => none

end Table
end FactoryGen.Toml
