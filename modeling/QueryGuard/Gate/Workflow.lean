import QueryGuard.Draft.Cache
import QueryGuard.Gate.Outcome

/-!
The four ways through the gate: plan, run, write and ask. A statement is validated, planned,
judged, and only then carried out, once.
-/

namespace QueryGuard

/-- All that lies outside: the database, the drafter of statements if there is one, and readings
of clocks. -/
structure World where
  database : Database
  drafter : Option (String → Schema → Except Failure String)
  /-- When the store of drafts is searched. -/
  searchedAt : Nat
  /-- When a new draft is stored. -/
  storedAt : Nat
  elapsed : Stage → Float

namespace World

variable (w : World) (limits : Limits)

/-- Plans without carrying out. The ways between tables are left out if there is no schema. -/
def plan (sql : String) : Traced PlanOutcome := do
  let schema ← w.database.askSchema.attempt
  let plan ← Plan.build w.database sql limits.safe schema.toOption
  return ⟨sql, plan, Policy.judge sql plan true, { planMs := some (w.elapsed .plan) }⟩

/-- The text that a run sends. -/
def executedSql (sql : String) (plan : Plan) (options : RunOptions) : String :=
  let chosen := if options.safe then plan.safeSql else sql
  match options.mode with
  | .preview => (RowBound.bound chosen limits.preview).1
  | _ => chosen

/-- Judges a planned read and carries it out. -/
def carryOut (sql : String) (options : RunOptions) (plan : Plan) (metrics : Metrics) :
    Traced RunOutcome :=
  let decision := Policy.judge sql plan true
  if options.safe && !decision.allowed then .ok (.blocked plan decision)
  else if options.mode = .explain then .ok (.explained plan decision metrics)
  else do
    let text := executedSql limits sql plan options
    let result ← w.database.askQuery text
    return .executed text result plan decision
      { metrics with queryMs := some (w.elapsed .query), rowsReturned := some result.rowCount }

/-- A run of a statement whose plan is made here. -/
def run (sql : String) (options : RunOptions) : Traced RunOutcome :=
  match Validation.read sql with
  | some refusal => .ok (.rejected refusal)
  | none => do
    let plan ← Plan.build w.database sql limits.safe none
    w.carryOut limits sql options plan { planMs := some (w.elapsed .plan) }

/-- A run of a statement that has been planned. -/
def runPlanned (sql : String) (options : RunOptions) (plan : Plan) (metrics : Metrics) :
    Traced RunOutcome :=
  match Validation.read sql with
  | some refusal => .ok (.rejected refusal)
  | none => w.carryOut limits sql options plan metrics

/-- Writes are not explained: they are judged by the plan of nothing. -/
def write (sql : String) (allowWrite : Bool) : Traced WriteOutcome :=
  match Validation.write sql with
  | some refusal => .ok (.rejected refusal)
  | none =>
    let decision := Policy.judge sql .blank (!allowWrite)
    if !decision.allowed then .ok (.blocked decision)
    else do
      let rows ← w.database.askWrite sql
      return .written rows decision

/-- A draft that is not in the store, and the store with it. A failure is not stored. -/
def newDraft (drafter : String → Schema → Except Failure String) (request : String)
    (schema : Schema) (store : Draft.Store) : Traced Draft × Draft.Store :=
  let drafted := drafter request schema
  let traced : Traced String := ⟨[.draft request], drafted⟩
  let draft := traced.andThen fun sql =>
    .ok ⟨sql, schema, w.elapsed .schema, w.elapsed .draft, false⟩
  match drafted with
  | .error _ => (draft, store)
  | .ok sql => (draft, store.setAt (Draft.cacheKey request schema) sql w.storedAt)

/-- SQL for a request in plain language, from the store while the schema stays the same. -/
def draft (request : String) (store : Draft.Store) : Traced Draft × Draft.Store :=
  match w.drafter with
  | none => (.fail .noDrafter, store)
  | some drafter =>
    match w.database.schema with
    | .error e => (⟨[.schema], .error e⟩, store)
    | .ok schema =>
      match store.getAt (Draft.cacheKey request schema) w.searchedAt with
      | (some sql, store) => (⟨[.schema], .ok ⟨sql, schema, w.elapsed .schema, 0.0, true⟩⟩, store)
      | (none, store) =>
        let (new, store) := w.newDraft drafter request schema store
        (⟨.schema :: new.calls, new.outcome⟩, store)

/-- Plans a draft, judges it, and runs it with the same plan if that is wanted. -/
def askWith (d : Draft) (request : String) (execute : Bool) (options : RunOptions) :
    Traced AskOutcome := do
  let plan ← Plan.build w.database d.sql limits.safe (some d.schema)
  let metrics : Metrics :=
    { schemaMs := some d.schemaMs, draftMs := some d.draftMs
      planMs := some (w.elapsed .plan), cacheHit := some d.cacheHit }
  let decision := Policy.judge d.sql plan true
  if execute then
    let run ← w.runPlanned limits d.sql options plan metrics
    return ⟨request, d.sql, plan, decision, metrics, some run⟩
  else
    return ⟨request, d.sql, plan, decision, metrics, none⟩

def ask (request : String) (execute : Bool) (options : RunOptions) (store : Draft.Store) :
    Traced AskOutcome × Draft.Store :=
  let (draft, store) := w.draft request store
  (draft.andThen fun d => w.askWith limits d request execute options, store)

end World

end QueryGuard
