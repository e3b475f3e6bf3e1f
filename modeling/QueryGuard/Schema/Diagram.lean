import QueryGuard.Schema.Basic

/-!
The schema as an entity-relationship diagram in Mermaid's notation: a block for each table with a
line for each column, then a line for each foreign key.
-/

namespace QueryGuard.Schema

/-- ASCII letters, digits and the underscore. -/
def isIdentifierChar (c : Char) : Bool := c.isAlphanum || c == '_'

/-- A name in which every other character is replaced; an empty name becomes `unknown`. -/
def identifier (name : String) : String :=
  match name.toList with
  | [] => "unknown"
  | s => String.ofList (s.map fun c => if isIdentifierChar c then c else '_')

def columnLine (c : Column) : String := "    " ++ identifier c.type ++ " " ++ identifier c.name

def tableLines (t : String × List Column) : List String :=
  ("  " ++ identifier t.1 ++ " \x7b") :: (t.2.map columnLine ++ ["  \x7d"])

def keyLabel (k : ForeignKey) : String :=
  if k.columns.isEmpty then "fk" else ", ".intercalate (k.columns.map identifier)

def keyLine (k : ForeignKey) : String :=
  "  " ++ identifier k.referredTable ++ " ||--o\x7b " ++ identifier k.table ++ " : \"" ++
    keyLabel k ++ "\""

def diagramLines (s : Schema) : List String :=
  "erDiagram" :: (s.tables.entries.flatMap tableLines ++ s.foreignKeys.map keyLine)

def diagram (s : Schema) : String := "\n".intercalate s.diagramLines

end QueryGuard.Schema
