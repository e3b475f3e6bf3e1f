import QueryGuard.Database
import QueryGuard.Outline.Basic
import QueryGuard.Risk

/-!
The plan for a statement: what the engine says it will do, the risk of doing it, an outline, and
the statement with a row bound. The statement itself is not carried out; a failed EXPLAIN leaves
the figures empty and is kept as the reason.
-/

namespace QueryGuard

/-- An EXPLAIN and its answer: rows, or the text of a failure. No answer means never asked. -/
structure Explanation where
  dialect : Dialect := .generic
  sql : String := ""
  answer : Option (Except String ResultSet) := none

namespace Explanation

def isOk (e : Explanation) : Bool :=
  match e.answer with
  | some (.error _) => false
  | _ => true

def estimate (e : Explanation) : Estimate :=
  match e.answer with
  | some (.ok rows) => e.dialect.estimate rows
  | _ => {}

/-- A failed EXPLAIN is an explanation too. -/
def ask (db : Database) (sql : String) : Traced Explanation := do
  let explainSql := db.dialect.explainSql sql
  let answer ← (db.askExplain explainSql).attempt
  return ⟨db.dialect, explainSql, some (answer.mapError Failure.message)⟩

end Explanation

structure Plan where
  explanation : Explanation
  estimateMs : Option Float
  planRows : Option Int
  totalCost : Option Float
  riskScore : Float
  riskLevel : RiskLevel
  riskyReasons : List String
  improvements : List String
  outline : Outline
  safeSql : String
  /-- Whether `safeSql` got its bound here. -/
  limitInjected : Bool
  notes : List String

namespace Plan

def notesFor (safeLimit : Nat) (injected estimated : Bool) : List String :=
  (if injected then ["Added LIMIT " ++ toString safeLimit ++ " for safety."] else []) ++
    [if estimated then "Runtime estimate is based on EXPLAIN cost (rough estimate)."
      else "Runtime estimate unavailable for this dialect."]

/-- The plan that follows from an explanation. -/
def ofExplanation (e : Explanation) (sql : String) (safeLimit : Nat) (schema : Option Schema) :
    Plan :=
  let estimate := e.estimate
  let risk := Risk.assess sql estimate
  let (safeSql, injected) := RowBound.bound sql safeLimit
  { explanation := e
    estimateMs := estimate.estimateMs
    planRows := estimate.planRows
    totalCost := estimate.totalCost
    riskScore := risk.score
    riskLevel := risk.level
    riskyReasons := risk.reasons
    improvements := risk.improvements
    outline := Outline.ofSql sql schema
    safeSql
    limitInjected := injected
    notes := notesFor safeLimit injected estimate.estimateMs.isSome }

def build (db : Database) (sql : String) (safeLimit : Nat) (schema : Option Schema) :
    Traced Plan := do
  let e ← Explanation.ask db sql
  return ofExplanation e sql safeLimit schema

/-- Planning asks for an explanation and for nothing else. -/
theorem calls_build (db : Database) (sql : String) (safeLimit : Nat) (schema : Option Schema) :
    (build db sql safeLimit schema).calls = [.explain (db.dialect.explainSql sql)] := rfl

/-- Planning never fails. -/
theorem outcome_build (db : Database) (sql : String) (safeLimit : Nat) (schema : Option Schema) :
    (build db sql safeLimit schema).outcome =
      .ok (ofExplanation ⟨db.dialect, db.dialect.explainSql sql,
        some ((db.explain (db.dialect.explainSql sql)).mapError Failure.message)⟩
        sql safeLimit schema) := rfl

/-- The plan of nothing: no figures, no risk, no bounded text. -/
def blank : Plan where
  explanation := {}
  estimateMs := none
  planRows := none
  totalCost := none
  riskScore := 0.0
  riskLevel := .low
  riskyReasons := []
  improvements := []
  outline := {}
  safeSql := ""
  limitInjected := false
  notes := []

end Plan

end QueryGuard
