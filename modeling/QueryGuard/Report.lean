import QueryGuard.Json.Basic
import QueryGuard.Policy
import QueryGuard.Validation

/-!
How the results are written as JSON. The fields of a record stand in the order in which the
record declares them; what is optional is `null` when it is missing, except where it is left out.
-/

namespace QueryGuard

open Json

def Dialect.toJson (d : Dialect) : Json := d.tag

def Intent.toJson : Intent → Json
  | .read => "read"
  | .write => "write"

def RiskLevel.toJson : RiskLevel → Json
  | .low => "low"
  | .medium => "medium"
  | .high => "high"

def Policy.name : Policy → String
  | .readOnly => "READ_ONLY"
  | .singleStatement => "SINGLE_STATEMENT"
  | .joinComplexity => "JOIN_COMPLEXITY"
  | .unboundedRead => "UNBOUNDED_READ"
  | .safeLimitApplied => "SAFE_LIMIT_APPLIED"
  | .riskThreshold => "RISK_THRESHOLD"
  | .allow => "ALLOW"

def Decision.toJson (d : Decision) : Json := .obj [
  ("allowed", d.allowed), ("policy", d.policy.name), ("reason", d.reason),
  ("suggested_fix", d.suggestedFix)]

def Validation.toJson (r : Option Refusal) : Json := .obj [
  ("ok", r.isNone), ("message", (r.map Refusal.message).getD "")]

def ResultSet.toJson (r : ResultSet) : Json := .obj [
  ("columns", strings r.columns), ("rows", .arr (r.rows.map .arr)), ("row_count", .int r.rowCount)]

def ResultSet.recordsJson (r : ResultSet) : Json := .arr (r.records.map .obj)

def Column.toJson (c : Column) : Json := .obj [("name", c.name), ("type", c.type)]

def ForeignKey.toJson (k : ForeignKey) : Json := .obj [
  ("table", k.table), ("columns", strings k.columns), ("referred_table", k.referredTable),
  ("referred_columns", strings k.referredColumns)]

def Schema.toJson (s : Schema) : Json := .obj [
  ("dialect", s.dialect),
  ("tables", .obj (s.tables.entries.map fun t => (t.1, .arr (t.2.map Column.toJson)))),
  ("foreign_keys", .arr (s.foreignKeys.map ForeignKey.toJson))]

def Estimate.toJson (e : Estimate) : Json := .obj [
  ("estimate_ms", ofOption .float e.estimateMs), ("plan_rows", ofOption .int e.planRows),
  ("total_cost", ofOption .float e.totalCost), ("plan_risks", strings e.planRisks)]

def JoinPath.toJson (p : JoinPath) : Json := .obj [
  ("from", p.start), ("to", p.goal), ("path", strings p.path)]

def Outline.toJson (o : Outline) : Json := .obj [
  ("intent", o.intent.toJson), ("tables", strings o.tables), ("joins", strings o.joins),
  ("filters", strings o.filters), ("aggregations", strings o.aggregations),
  ("group_by", strings o.groupBy), ("order_by", strings o.orderBy),
  ("limit", ofOption (fun n => .int n) o.limit), ("confidence", o.confidence),
  ("join_paths", .arr (o.joinPaths.map JoinPath.toJson))]

/-- Rows and error are left out when they are missing. -/
def Explanation.toJson (e : Explanation) : Json :=
  let answer : List (String × Json) := match e.answer with
    | none => []
    | some (.ok rows) => [("rows", rows.toJson)]
    | some (.error text) => [("error", text)]
  .obj ([("dialect", e.dialect.toJson), ("explain_sql", .str e.sql)] ++ answer)

def Plan.toJson (p : Plan) : Json := .obj [
  ("explain", p.explanation.toJson),
  ("estimate_ms", ofOption .float p.estimateMs), ("plan_rows", ofOption .int p.planRows),
  ("total_cost", ofOption .float p.totalCost), ("risk_score", p.riskScore),
  ("risk_level", p.riskLevel.toJson), ("risky_reasons", strings p.riskyReasons),
  ("improvements", strings p.improvements), ("plan_json", p.outline.toJson),
  ("safe_sql", p.safeSql), ("limit_injected", p.limitInjected), ("notes", strings p.notes)]

end QueryGuard
