import QueryGuard.Render.Value
import QueryGuard.ResultSet

/-!
Results as tables in plain text, with rules between the columns or a frame around all. Cells of
more than forty characters are cut. The width of a column counts the bytes of its name, up to
forty, and the characters of its cells.
-/

namespace QueryGuard.Render

def maxCell : Nat := 40

inductive TableStyle where
  | simple
  | grid
deriving DecidableEq

/-- Three points stand for the end of a text that is cut. -/
def cut (s : List Char) : List Char :=
  if s.length > maxCell then s.take (maxCell - 3) ++ "...".toList else s

def pad (width : Nat) (s : List Char) : List Char := s ++ List.replicate (width - s.length) ' '

def cells (r : ResultSet) : List (List (List Char)) :=
  r.rows.map fun row => row.map fun v => cut (value v).toList

/-- Widens columns to hold the cells of a row. Cells beyond the last column have no width. -/
def widen : List Nat → List (List Char) → List Nat
  | w :: ws, c :: cs => max w c.length :: widen ws cs
  | ws, _ => ws

def widths (r : ResultSet) : List Nat :=
  (cells r).foldl widen (r.columns.map fun c => min c.utf8ByteSize maxCell)

/-- A row of padded cells; there are as many as the shorter of the lists. -/
def row (separator : List Char) (widths : List Nat) (texts : List (List Char)) : List Char :=
  separator.intercalate (List.zipWith (fun t w => pad w t) texts widths)

def bar : List Char := " | ".toList

def simpleLines (widths : List Nat) (head : List (List Char)) (body : List (List (List Char))) :
    List (List Char) :=
  let rule := "-+-".toList.intercalate (widths.map fun w => List.replicate w '-')
  row bar widths head :: rule :: body.map (row bar widths)

def gridLines (widths : List Nat) (head : List (List Char)) (body : List (List (List Char))) :
    List (List Char) :=
  let rule := ['+'].intercalate (widths.map fun w => List.replicate (w + 2) '-')
  let border := '+' :: (rule ++ ['+'])
  let boxed (texts : List (List Char)) : List Char :=
    "| ".toList ++ row bar widths texts ++ " |".toList
  border :: boxed head :: border :: (body.map boxed ++ [border])

def tableLines (style : TableStyle) (r : ResultSet) : List (List Char) :=
  let head := r.columns.map fun c => cut c.toList
  match style with
  | .simple => simpleLines (widths r) head (cells r)
  | .grid => gridLines (widths r) head (cells r)

/-- Without columns there is no table. -/
def table (style : TableStyle) (r : ResultSet) : String :=
  if r.columns.isEmpty then ""
  else String.ofList (['\n'].intercalate (tableLines style r))

end QueryGuard.Render
