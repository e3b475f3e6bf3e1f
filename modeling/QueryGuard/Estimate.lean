import QueryGuard.ResultSet
import QueryGuard.Json.Reader
import QueryGuard.Json.Printer
import QueryGuard.Decimal.Dyadic
import QueryGuard.Decimal.Word
import QueryGuard.Text.LowerCase
import QueryGuard.Text.UpperCase
import QueryGuard.Text.Search

/-!
What an engine's plan tells about a statement: its cost, its number of rows, and the steps that
tend to be slow. Every figure may be missing.
-/

namespace QueryGuard

open Text

structure Estimate where
  /-- The cost, taken for a time. -/
  estimateMs : Option Float := none
  planRows : Option Int := none
  totalCost : Option Float := none
  planRisks : List String := []

namespace Estimate

/-- Nested loops over more rows than this are reported. -/
def nestedLoopRows : Float := 5000.0

def isPlanColumn (name : String) : Bool :=
  (lower name.toList).map (fun c => if c = '_' then ' ' else c) == "query plan".toList

/-- The node of a plan document: an object, or the first item of a list, with or without an
envelope called `Plan`. -/
def topNode? (document : Json) : Option (List (String × Json)) :=
  let inner := match document with
    | .arr items => items.head?
    | other => some other
  match inner with
  | some (.obj fields) =>
    match fields.lookup "Plan" with
    | some (.obj node) => some node
    | some _ => none
    | none => some fields
  | _ => none

/-- The top node of the plan in the first row of the plan column, where it may stand as text. -/
def planOf? (r : ResultSet) : Option (List (String × Json)) := do
  let row ← r.rows.head?
  let i ← r.columns.findIdx? isPlanColumn
  let cell ← row[i]?
  match cell with
  | .str text => (Json.parse? text).bind topNode?
  | document => topNode? document

/-- The risk of one node, its children left aside. -/
def nodeRisks (fields : List (String × Json)) : List String :=
  match fields.lookup "Node Type" with
  | some (.str "Seq Scan") =>
    let relation := match fields.lookup "Relation Name" with
      | some (.str name) => if name = "" then "table" else name
      | _ => "table"
    ["Sequential scan on " ++ relation ++ "."]
  | some (.str "Nested Loop") =>
    match (fields.lookup "Plan Rows").bind Json.float? with
    | some rows => if nestedLoopRows < rows then ["Large nested loop join detected."] else []
    | none => []
  | _ => []

mutual

/-- The risks of a node and of all nodes below it, parents first. -/
def risksOf : Json → List String
  | .obj fields => nodeRisks fields ++ risksBelow fields
  | _ => []

/-- The risks of the children listed in the first field called `Plans`. -/
def risksBelow : List (String × Json) → List String
  | [] => []
  | (name, value) :: rest =>
    if name = "Plans" then
      match value with
      | .arr nodes => risksOfAll nodes
      | _ => []
    else risksBelow rest

def risksOfAll : List Json → List String
  | [] => []
  | node :: rest => risksOf node ++ risksOfAll rest

end

/-- Rows as a whole number of 64 bits; fractions are cut off and larger numbers held at the
bounds. -/
def wholeRows? : Json → Option Int
  | .int n => if n < Decimal.halfWords64 then some n else some (Float.ofInt n).toInt64.toInt
  | .float x => some x.toInt64.toInt
  | _ => none

/-- A plan given as a tree of nodes. -/
def ofPlanTree (r : ResultSet) : Estimate :=
  match planOf? r with
  | none => {}
  | some fields =>
    let cost := (fields.lookup "Total Cost").bind Json.float?
    { estimateMs := cost.map Decimal.round2
      planRows := (fields.lookup "Plan Rows").bind wholeRows?
      totalCost := cost
      planRisks := risksOf (.obj fields) }

def cellText : Json → List Char
  | .str s => s.toList
  | value => value.compact

/-- A plan given as one line of text a row, in the column `detail`. -/
def ofPlanLines (r : ResultSet) : Estimate :=
  let details := (List.range r.rows.length).filterMap fun i => r.value? i "detail"
  let scans := details.filter fun d => contains "SCAN".toList (upper (cellText d))
  { planRisks := scans.map fun _ => "Full table scan detected." }

end Estimate

end QueryGuard
