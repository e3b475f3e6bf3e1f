import QueryGuard.Text.Search

/-!
Row bounds. A text has one when the word LIMIT stands in it, in any letter case and wherever
that is; a text without one gets it appended in front of its last semicolon.
-/

namespace QueryGuard.RowBound

open Text

def keyword : List Char := "limit".toList

def hasLimit (sql : String) : Bool :=
  !(standing keyword false (sql.toList.map Char.toLower)).isEmpty

/-- The text without blanks at its end, cut in front of a semicolon that then comes last; the
second part is that semicolon or empty. -/
def splitTerminator (sql : String) : String × String :=
  let s := trimEnd sql.toList
  match s.getLast? with
  | some ';' => (String.ofList s.dropLast, ";")
  | _ => (String.ofList s, "")

/-- The bounded text, and whether the bound was added here. -/
def bound (sql : String) (rows : Nat) : String × Bool :=
  if hasLimit sql then (sql, false)
  else
    let (body, terminator) := splitTerminator sql
    (body ++ " LIMIT " ++ toString rows ++ terminator, true)

theorem bound_of_hasLimit {sql : String} (h : hasLimit sql = true) (rows : Nat) :
    bound sql rows = (sql, false) := by
  simp [bound, h]

theorem snd_bound (sql : String) (rows : Nat) : (bound sql rows).2 = !hasLimit sql := by
  unfold bound
  split <;> simp_all

end QueryGuard.RowBound
