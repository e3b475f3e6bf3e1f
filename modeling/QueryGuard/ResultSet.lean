import QueryGuard.Json.Value

/-!
Rows that a database answers. A row may be shorter or longer than the list of columns.
-/

namespace QueryGuard

/-- A cell as the driver of a database hands it over: null, or what it can be read as. -/
structure Cell where
  isNull : Bool := false
  text? : Option String := none
  int64? : Option Int := none
  int32? : Option Int := none
  real? : Option Float := none
  truth? : Option Bool := none

/-- The kinds are tried in this order. -/
def Cell.toJson (c : Cell) : Json :=
  if c.isNull then .null
  else
    (c.text?.map Json.str <|> c.int64?.map Json.int <|> c.int32?.map Json.int <|>
      c.real?.map Json.ofFloat <|> c.truth?.map Json.bool).getD "<unsupported>"

structure ResultSet where
  columns : List String
  rows : List (List Json)
  rowCount : Nat

namespace ResultSet

def empty : ResultSet := ⟨[], [], 0⟩

def ofRows (columns : List String) (rows : List (List Json)) : ResultSet :=
  ⟨columns, rows, rows.length⟩

/-- An answer of a database; a row gives the cell at each place. Without rows no column is known. -/
def ofAnswer (columns : List String) (rows : List (Nat → Cell)) : ResultSet :=
  if rows.isEmpty then empty
  else ofRows columns (rows.map fun row => (List.range columns.length).map fun i => (row i).toJson)

variable (r : ResultSet)

/-- Every row has a cell for each column, and no other. -/
def IsFull : Prop := ∀ row ∈ r.rows, row.length = r.columns.length

instance : Decidable r.IsFull := List.decidableBAll _ r.rows

/-- **Answers are full.** -/
theorem isFull_ofAnswer (columns : List String) (rows : List (Nat → Cell)) :
    (ofAnswer columns rows).IsFull := by
  unfold ofAnswer
  split
  · exact fun row hrow => nomatch hrow
  · intro row hrow
    obtain ⟨cells, -, rfl⟩ := List.mem_map.1 hrow
    rw [List.length_map, List.length_range]
    rfl

def columnIndex? (column : String) : Option Nat := r.columns.findIdx? (· == column)

/-- The cell of a row under the first column of that name. -/
def value? (row : Nat) (column : String) : Option Json := do
  let i ← r.columnIndex? column
  let cells ← r.rows[row]?
  cells[i]?

/-- The rows as objects. Of columns with one name the last counts. -/
def records : List (List (String × Json)) := r.rows.map fun row => Json.ofFields (r.columns.zip row)

end ResultSet

end QueryGuard
