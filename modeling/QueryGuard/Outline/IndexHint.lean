import QueryGuard.Outline.Clause
import QueryGuard.Text.LowerCase

/-!
Indexes that might help: one for each column, named with its table, that a JOIN … ON, a WHERE or
an ORDER BY begins with.
-/

namespace QueryGuard.IndexHint

open Text Clause

/-- `q.c`, as the pair of its parts. -/
def qualified? (s : List Char) : Option ((List Char × List Char) × List Char) := do
  let (table, s) ← run? isNameChar s
  match s with
  | '.' :: s =>
    let (column, s) ← run? isNameChar s
    return ((table, column), s)
  | _ => none

/-- The column after ON, blanks in front. -/
def on? (s : List Char) : Option ((List Char × List Char) × List Char) :=
  ((blanks? s).bind (after? "on")).bind qualified?

def aliasedOn? (s : List Char) : Option ((List Char × List Char) × List Char) :=
  ((blanks? s).bind (run? isNameChar)).bind fun (_, s) => on? s

def asAliasedOn? (s : List Char) : Option ((List Char × List Char) × List Char) :=
  (((blanks? s).bind (after? "as")).bind (run? isNameChar)).bind fun (_, s) => on? s

/-- `join t on q.c`, with an alias before the ON if there can be one. -/
def joinOn? (s : List Char) : Option ((List Char × List Char) × List Char) :=
  (named? "join" s).bind fun (_, s) => asAliasedOn? s <|> aliasedOn? s <|> on? s

def where? (s : List Char) : Option ((List Char × List Char) × List Char) :=
  (after? "where" s).bind qualified?

def orderBy? (s : List Char) : Option ((List Char × List Char) × List Char) :=
  ((Clause.orderBy? s).bind blanks?).bind qualified?

def message (purpose : String) (column : List Char × List Char) : String :=
  "Consider index on " ++ String.ofList column.1 ++ "." ++ String.ofList column.2 ++ purpose

/-- Hints for the joins, then the filter, then the order, each once. -/
def suggest (sql : String) : List String :=
  let s := lower sql.toList
  ((readAll joinOn? s).map (message ".") ++ (readAll where? s).map (message ".") ++
    (readAll orderBy? s).map (message " for ORDER BY.")).eraseDups

end QueryGuard.IndexHint
