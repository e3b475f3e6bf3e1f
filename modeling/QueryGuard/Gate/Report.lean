import QueryGuard.Gate.Outcome
import QueryGuard.Report

/-!
The outcomes of the gate as JSON.
-/

namespace QueryGuard

open Json

def RunMode.name : RunMode → String
  | .execute => "execute"
  | .preview => "preview"
  | .explain => "explain"

def Metrics.toJson (m : Metrics) : Json := .obj [
  ("schema_ms", ofOption .float m.schemaMs), ("llm_ms", ofOption .float m.draftMs),
  ("compile_sql_ms", ofOption .float m.planMs), ("db_exec_ms", ofOption .float m.queryMs),
  ("rows_returned", ofOption (fun n => .int n) m.rowsReturned),
  ("cache_hit", ofOption .bool m.cacheHit)]

def PlanOutcome.toJson (o : PlanOutcome) : Json := .obj [
  ("sql", o.sql), ("recommended_sql", o.recommended), ("plan", o.plan.toJson),
  ("policy", o.decision.toJson), ("metrics", o.metrics.toJson)]

def RunOutcome.toJson (o : RunOutcome) : Json :=
  let error := ("error", ofOption .str o.error?)
  match o with
  | .rejected _ => .obj [("status", "rejected"), error]
  | .blocked plan d =>
    .obj [("status", "blocked"), error, ("plan", plan.toJson), ("policy", d.toJson)]
  | .explained plan d m =>
    .obj [("status", "explained"), ("plan", plan.toJson), ("policy", d.toJson),
      ("metrics", m.toJson)]
  | .executed sql result plan d m =>
    .obj [("status", "executed"), ("executed_sql", sql), ("result", result.toJson),
      ("plan", plan.toJson), ("policy", d.toJson), ("metrics", m.toJson)]

def WriteOutcome.toJson (o : WriteOutcome) : Json :=
  let error := ("error", ofOption .str o.error?)
  match o with
  | .rejected _ => .obj [("status", "rejected"), error]
  | .blocked d => .obj [("status", "blocked"), error, ("policy", d.toJson)]
  | .written rows d =>
    .obj [("status", "written"), ("row_count", .int rows), ("policy", d.toJson)]

def Draft.toJson (d : Draft) : Json := .obj [
  ("sql", d.sql), ("schema", d.schema.toJson), ("schema_ms", d.schemaMs),
  ("llm_ms", d.draftMs), ("cache_hit", d.cacheHit)]

/-- The run is left out when there was none. -/
def AskOutcome.toJson (o : AskOutcome) : Json := .obj ([
  ("request", .str o.request), ("sql", .str o.sql), ("recommended_sql", .str o.plan.safeSql),
  ("plan", o.plan.toJson), ("policy", o.decision.toJson), ("metrics", o.metrics.toJson),
  ("executed", .bool o.run.isSome)] ++ o.run.toList.map fun r => ("run", r.toJson))

end QueryGuard
