import QueryGuard.Render.Csv
import QueryGuard.Render.Table
import QueryGuard.Report

/-!
The formats in which a result can be shown.
-/

namespace QueryGuard.Render

inductive Format where
  | json
  | table
  | grid
  | csv
deriving DecidableEq

def result (r : ResultSet) : Format → Except Failure String
  | .json => .ok r.recordsJson.pretty
  | .table => .ok (table .simple r)
  | .grid => .ok (table .grid r)
  | .csv => csv r

end QueryGuard.Render
