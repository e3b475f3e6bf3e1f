import QueryGuard.Dialect
import QueryGuard.Json.Printer
import QueryGuard.Schema.Basic

/-!
Schemas from the rows of a database's catalogue: one row for each column, and one for each pair
of columns that a foreign key relates. SQLite has no such rows: it names its tables, and describes
the columns and the keys of each.
-/

namespace QueryGuard.Catalog

structure ColumnRow where
  table : String
  column : String
  type : String

structure KeyRow where
  /-- Tells the keys of one table apart. -/
  constraint : String
  table : String
  column : String
  referredTable : String
  /-- Empty if the key refers to the other table's primary key without naming it. -/
  referredColumn : String

namespace KeyRow

def identity (r : KeyRow) : String × String := (r.table, r.constraint)

def isNamed (r : KeyRow) : Bool := r.table != "" && r.referredTable != ""

end KeyRow

def addOnce (x : String) (xs : List String) : List String := if x ∈ xs then xs else xs ++ [x]

/-- A key with one more pair of columns. -/
def addPair (k : ForeignKey) (r : KeyRow) : ForeignKey :=
  { k with
    columns := addOnce r.column k.columns
    referredColumns :=
      if r.referredColumn = "" then k.referredColumns
      else addOnce r.referredColumn k.referredColumns }

/-- Adds a row to the key it belongs to, or begins a new key with it. -/
def addRow (r : KeyRow) :
    List ((String × String) × ForeignKey) → List ((String × String) × ForeignKey)
  | [] => [(r.identity, addPair ⟨r.table, [], r.referredTable, []⟩ r)]
  | (id, k) :: rest =>
    if id = r.identity then (id, addPair k r) :: rest else (id, k) :: addRow r rest

/-- The keys in the order of their first rows. Rows without a table on either side are left
out. -/
def foreignKeys (rows : List KeyRow) : List ForeignKey :=
  ((rows.filter KeyRow.isNamed).foldl (fun keys r => addRow r keys) []).map (·.2)

def schema (dialect : Dialect) (columns : List ColumnRow) (keys : List KeyRow) : Schema where
  dialect := dialect.tag
  tables := columns.foldl (fun m r =>
    m.alter r.table fun known => known.getD [] ++ [⟨r.column, r.type⟩]) .empty
  foreignKeys := foreignKeys keys

/-- A pair of columns in the description of a table's keys. -/
structure DescribedPair where
  /-- The number of the key. -/
  id : Json
  column : String
  referredTable : String
  /-- Missing if the key refers to the other table's primary key without naming it. -/
  referredColumn : Option String

/-- A table as SQLite describes it, its columns with their types. -/
structure DescribedTable where
  name : String
  columns : List (String × Option String)
  pairs : List DescribedPair

def DescribedTable.columnRows (t : DescribedTable) : List ColumnRow :=
  t.columns.map fun c => ⟨t.name, c.1, c.2.getD ""⟩

def DescribedTable.keyRows (t : DescribedTable) : List KeyRow :=
  t.pairs.map fun p => ⟨p.id.render, t.name, p.column, p.referredTable, p.referredColumn.getD ""⟩

def ofDescribed (dialect : Dialect) (tables : List DescribedTable) : Schema :=
  schema dialect (tables.flatMap DescribedTable.columnRows)
    (tables.flatMap DescribedTable.keyRows)

end QueryGuard.Catalog
