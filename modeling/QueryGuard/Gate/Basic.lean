import QueryGuard.Audit
import QueryGuard.Gate.Report
import QueryGuard.Gate.Workflow
import QueryGuard.Json.Value

/-!
The gate with its memory: the limits it was set up with, the drafts it keeps and the log it
writes. A plan is always recorded; the other three are recorded when they come to an outcome,
so a failure on the way leaves no line.
-/

namespace QueryGuard

structure Gate where
  limits : Limits
  drafts : Draft.Store
  log : Audit.Log

namespace Gate

open Json

/-- Five minutes of drafts and no log. -/
def initial : Gate := ⟨{}, .memory (.empty Draft.Cache.defaultTtl), .disabled⟩

/-! What is recorded is a value, so the metrics in it are in order of their names too. -/

def planRecord (o : PlanOutcome) : Json := toValue (.obj [
  ("sql", o.sql), ("risk_score", o.plan.riskScore), ("policy", o.decision.toJson),
  ("metrics", o.metrics.toJson)])

def runRecord (sql : String) (options : RunOptions) (o : RunOutcome) : Json := toValue (.obj [
  ("sql", sql), ("mode", options.mode.name), ("safe", options.safe),
  ("policy", ofOption Decision.toJson o.decision?)])

def writeRecord (sql : String) (allowWrite : Bool) (o : WriteOutcome) : Json := toValue (.obj [
  ("sql", sql), ("allow_write", allowWrite), ("policy", ofOption Decision.toJson o.decision?)])

def askRecord (o : AskOutcome) : Json := toValue (.obj [
  ("request", o.request), ("sql", o.sql), ("policy", o.decision.toJson),
  ("metrics", o.metrics.toJson)])

variable (g : Gate) (w : World) (time : String)

/-- The gate after work that came to an outcome, or failed. -/
def recorded {α : Type} (event : String) (record : α → Json) (x : Traced α) : Gate :=
  match x.outcome with
  | .ok a => { g with log := g.log.record time event (record a) }
  | .error _ => g

def plan (sql : String) : Traced PlanOutcome × Gate :=
  let x := w.plan g.limits sql
  (x, g.recorded time "plan" planRecord x)

def run (sql : String) (options : RunOptions) : Traced RunOutcome × Gate :=
  let x := w.run g.limits sql options
  (x, g.recorded time "run" (runRecord sql options) x)

def write (sql : String) (allowWrite : Bool) : Traced WriteOutcome × Gate :=
  let x := w.write sql allowWrite
  (x, g.recorded time "write" (writeRecord sql allowWrite) x)

def draft (request : String) : Traced Draft × Gate :=
  let (x, drafts) := w.draft request g.drafts
  (x, { g with drafts })

def ask (request : String) (execute : Bool) (options : RunOptions) : Traced AskOutcome × Gate :=
  let (x, drafts) := w.ask g.limits request execute options g.drafts
  (x, { g with drafts }.recorded time "ask" askRecord x)

end Gate

end QueryGuard
