import QueryGuard.Failure
import QueryGuard.Render.Value
import QueryGuard.ResultSet
import QueryGuard.Text.Blank

/-!
Results as comma-separated values. All records have as many fields as the first. A field is
quoted if it holds a comma, a quote or a line end, or if it is empty and alone in its record.
-/

namespace QueryGuard.Render

def needsQuotes (field : List Char) : Bool :=
  field.any fun c => c == ',' || c == '"' || c == '\n' || c == '\r'

def quoted (field : List Char) : List Char :=
  '"' :: (field.flatMap (fun c => if c = '"' then ['"', '"'] else [c]) ++ ['"'])

def csvField (field : List Char) : List Char := if needsQuotes field then quoted field else field

def csvRecord : List (List Char) → List Char
  | [[]] => ['"', '"', '\n']
  | fields => [','].intercalate (fields.map csvField) ++ ['\n']

/-- The records below one of `previous` fields, up to the first that has another number. -/
def csvRecords (previous : Nat) : List (List (List Char)) → Except Failure (List Char)
  | [] => .ok []
  | r :: rest =>
    if r.length = previous then (csvRecords previous rest).map (csvRecord r ++ ·)
    else .error (.unevenRecords r.length previous)

/-- The names and the rows as records, without the blanks that end the text. Without columns
there is nothing. -/
def csv (r : ResultSet) : Except Failure String :=
  if r.columns.isEmpty then .ok ""
  else
    let head := r.columns.map String.toList
    let body := r.rows.map fun row => row.map fun v => (value v).toList
    (csvRecords head.length body).map fun text =>
      String.ofList (Text.trimEnd (csvRecord head ++ text))

end QueryGuard.Render
