import QueryGuard.Policy
import QueryGuard.Validation

/-!
What is asked of the gate, and what comes of it.
-/

namespace QueryGuard

structure Limits where
  /-- The bound of reads that have none. -/
  safe : Nat := 1000
  /-- The bound of previews. -/
  preview : Nat := 50

inductive RunMode where
  | execute
  | preview
  | explain
deriving DecidableEq

structure RunOptions where
  mode : RunMode := .execute
  /-- Whether the policy is enforced and the bounded text is run. -/
  safe : Bool := true

/-- The parts of a request whose time is taken. -/
inductive Stage where
  | schema
  | draft
  | plan
  | query

/-- Times in milliseconds of the stages that took place, and what is known of rows and cache. -/
structure Metrics where
  schemaMs : Option Float := none
  draftMs : Option Float := none
  planMs : Option Float := none
  queryMs : Option Float := none
  rowsReturned : Option Nat := none
  cacheHit : Option Bool := none

structure PlanOutcome where
  sql : String
  plan : Plan
  decision : Decision
  metrics : Metrics

/-- The bounded statement is the one to run. -/
def PlanOutcome.recommended (o : PlanOutcome) : String := o.plan.safeSql

inductive RunOutcome where
  /-- Refused before it was planned. -/
  | rejected (refusal : Refusal)
  | blocked (plan : Plan) (decision : Decision)
  | explained (plan : Plan) (decision : Decision) (metrics : Metrics)
  | executed (sql : String) (result : ResultSet) (plan : Plan) (decision : Decision)
      (metrics : Metrics)

namespace RunOutcome

def decision? : RunOutcome → Option Decision
  | rejected _ => none
  | blocked _ d => some d
  | explained _ d _ => some d
  | executed _ _ _ d _ => some d

def error? : RunOutcome → Option String
  | rejected refusal => some refusal.message
  | blocked _ _ => some "Query blocked by safety policy."
  | _ => none

end RunOutcome

inductive WriteOutcome where
  | rejected (refusal : Refusal)
  | blocked (decision : Decision)
  | written (rowCount : Nat) (decision : Decision)

namespace WriteOutcome

def decision? : WriteOutcome → Option Decision
  | rejected _ => none
  | blocked d => some d
  | written _ d => some d

def error? : WriteOutcome → Option String
  | rejected refusal => some refusal.message
  | blocked _ => some "Write blocked by safety policy."
  | written _ _ => none

end WriteOutcome

/-- SQL for a request in plain language. -/
structure Draft where
  sql : String
  schema : Schema
  schemaMs : Float
  draftMs : Float
  cacheHit : Bool

structure AskOutcome where
  request : String
  sql : String
  plan : Plan
  decision : Decision
  metrics : Metrics
  run : Option RunOutcome

end QueryGuard
