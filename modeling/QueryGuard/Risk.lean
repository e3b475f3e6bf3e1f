import QueryGuard.Estimate
import QueryGuard.Outline.IndexHint
import QueryGuard.Statement

/-!
How likely a read is to be slow. Signals in the text and in the plan each add a weight, a reason
and an advice; they are taken in a fixed order, so the same statement always gets the same lists.
-/

namespace QueryGuard

open Text

inductive RiskLevel where
  | low
  | medium
  | high
deriving DecidableEq

def RiskLevel.ofScore (score : Float) : RiskLevel :=
  if score ≥ 0.7 then .high else if score ≥ 0.4 then .medium else .low

structure Risk where
  score : Float
  reasons : List String
  improvements : List String

namespace Risk

structure Signal where
  weight : Float
  reason : String
  improvement : String

def level (r : Risk) : RiskLevel := .ofScore r.score

def unbounded : Signal :=
  ⟨0.3, "SELECT without WHERE or LIMIT.", "Add WHERE filters to reduce scanned rows."⟩

def joined : Signal :=
  ⟨0.1, "JOIN detected; ensure indexed join keys.", "Add indexes on JOIN columns if missing."⟩

def leadingWildcard : Signal :=
  ⟨0.2, "Leading wildcard LIKE can be slow.",
    "Prefer prefix search or use a trigram/full-text index."⟩

def unboundedOrder : Signal :=
  ⟨0.1, "ORDER BY without LIMIT can be expensive.", "Add LIMIT when ordering large tables."⟩

def allColumns : Signal :=
  ⟨0.05, "SELECT * can fetch unnecessary columns.", "Select only the columns you need."⟩

def costly : Signal :=
  ⟨0.2, "High planner cost detected.", "Consider adding WHERE filters or indexes."⟩

/-- Added once for all the risks that the plan tells of. -/
def planRiskWeight : Float := 0.2

def highCost : Float := 10000.0

def noAdvice : String := "Query looks reasonable; no obvious improvements detected."

/-- A pattern in quotes that begins with a percent sign and ends with another on the same line. -/
def isWildcardPattern (s : List Char) : Bool :=
  match "'%".toList.isPrefixOf? s with
  | none => false
  | some rest => contains "%'".toList (rest.takeWhile (· != '\n'))

/-- Whether LIKE stands in the text in front of such a pattern. -/
def hasLeadingWildcard (s : Statement) : Bool :=
  (remainders "like".toList s.text.toList).any fun r =>
    ((blanks? r).map isWildcardPattern).getD false

/-- Whether a star follows a SELECT. -/
def selectsAll (s : Statement) : Bool :=
  (standing "select".toList false s.text.toList).any fun r =>
    ((blanks? r).map fun t => "*".toList.isPrefixOf t).getD false

/-- The signals that fire, in order. -/
def signals (s : Statement) (e : Estimate) : List Signal :=
  [(s.isUnbounded, unbounded),
    (s.hasWord "join", joined),
    (hasLeadingWildcard s, leadingWildcard),
    (s.hasWord "order by" && !s.hasLimit, unboundedOrder),
    (selectsAll s, allColumns),
    ((e.totalCost.map fun c => decide (c > highCost)).getD false, costly)].filterMap
      fun (fires, signal) => if fires then some signal else none

/-- The weights summed up one by one, held at one, to two places. -/
def total (weights : List Float) : Float :=
  let sum := weights.foldl (· + ·) 0.0
  Decimal.round2 (if sum ≤ 1.0 then sum else 1.0)

def assess (sql : String) (e : Estimate) : Risk :=
  let s := Statement.ofSql sql
  let fired := signals s e
  let advice := fired.map (·.improvement) ++ IndexHint.suggest s.text
  { score := total (fired.map (·.weight) ++ if e.planRisks.isEmpty then [] else [planRiskWeight])
    reasons := fired.map (·.reason) ++ e.planRisks
    improvements := if advice.isEmpty then [noAdvice] else advice }

end Risk

end QueryGuard
