import QueryGuard.NameMap

/-!
What is known of a database: its tables with their columns, and the foreign keys between them.
-/

namespace QueryGuard

structure Column where
  name : String
  type : String
deriving DecidableEq

structure ForeignKey where
  table : String
  columns : List String
  referredTable : String
  referredColumns : List String
deriving DecidableEq

structure Schema where
  dialect : String
  tables : NameMap (List Column)
  foreignKeys : List ForeignKey

namespace Schema

def empty : Schema := ⟨"", .empty, []⟩

def tableNames (s : Schema) : List String := s.tables.names

def tableText (name : String) (columns : List Column) : String :=
  "TABLE " ++ name ++ " (\n" ++
    String.join (columns.map fun c => "  " ++ c.name ++ " " ++ c.type ++ "\n") ++ ")"

def keyText (k : ForeignKey) : String :=
  "  " ++ k.table ++ "(" ++ ", ".intercalate k.columns ++ ") -> " ++ k.referredTable ++ "(" ++
    ", ".intercalate k.referredColumns ++ ")\n"

/-- The schema as a text for readers of plain language. -/
def prompt (s : Schema) : String :=
  let tables := "\n\n".intercalate (s.tables.entries.map fun t => tableText t.1 t.2)
  if s.foreignKeys.isEmpty then tables
  else tables ++ "\n\nRELATIONSHIPS\n" ++ String.join (s.foreignKeys.map keyText)

end Schema

end QueryGuard
