import QueryGuard.Outline.Clause
import QueryGuard.Schema.Graph
import QueryGuard.Statement
import QueryGuard.Decimal.Dyadic

/-!
The outline of a query: what it reads or writes, its clauses, and the ways by which its tables
can be joined. How many of the parts were found says how far the outline is to be trusted.
-/

namespace QueryGuard

open Text

inductive Intent where
  | read
  | write
deriving DecidableEq

structure Outline where
  intent : Intent := .read
  tables : List String := []
  joins : List String := []
  filters : List String := []
  aggregations : List String := []
  groupBy : List String := []
  orderBy : List String := []
  limit : Option Nat := none
  confidence : Float := 0.0
  joinPaths : List JoinPath := []

namespace Outline

/-- Tables count most; a filter or a limit, and a join, count half as much. -/
def confidenceOf (tables bounds joins : Bool) : Float :=
  let c : Float := 0.6
  let c := if tables then c + 0.2 else c
  let c := if bounds then c + 0.1 else c
  let c := if joins then c + 0.1 else c
  Decimal.round2 (if c ≤ 1.0 then c else 1.0)

def ofSql (sql : String) (schema : Option Schema) : Outline :=
  let text := lowerCase sql
  let tables := Clause.tables text
  let joins := Clause.joins text
  let filters := Clause.filters text
  let limit := Clause.limit text
  { intent := if (Statement.ofSql sql).isWrite then .write else .read
    tables, joins, filters
    aggregations := Clause.aggregations text
    groupBy := Clause.groupBy text
    orderBy := Clause.orderBy text
    limit
    confidence := confidenceOf (!tables.isEmpty) (!filters.isEmpty || limit.isSome) (!joins.isEmpty)
    joinPaths := match schema with
      | none => []
      | some s => (SchemaGraph.ofSchema s).joinPaths tables }

end Outline

end QueryGuard
