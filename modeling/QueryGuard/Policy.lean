import QueryGuard.Plan

/-!
Whether a planned statement may run. The rules are asked in order and the first that answers
decides, so each may take for granted that those before it were silent.
-/

namespace QueryGuard

inductive Policy where
  | readOnly
  | singleStatement
  | joinComplexity
  | unboundedRead
  | safeLimitApplied
  | riskThreshold
  | allow
deriving DecidableEq

structure Decision where
  allowed : Bool
  policy : Policy
  reason : String
  suggestedFix : String
deriving DecidableEq

namespace Decision

def allow : Decision := ⟨true, .allow, "", ""⟩

def deny (policy : Policy) (reason fix : String) : Decision := ⟨false, policy, reason, fix⟩

end Decision

namespace Policy

/-- A rule sees the statement, its plan, and whether writes are barred. -/
abbrev Rule := Statement → Plan → Bool → Option Decision

/-- This many joins are too many. -/
def tooManyJoins : Nat := 3

def riskLimit : Float := 0.7

def barWrites : Rule := fun s _ readOnly =>
  if readOnly && !s.isRead then
    some (.deny .readOnly "WRITE_OPERATION_DETECTED"
      "Use SELECT or switch to a write tool with explicit approval.")
  else none

def oneStatement : Rule := fun s _ _ =>
  if s.hasInnerSemicolon then
    some (.deny .singleStatement "MULTIPLE_STATEMENTS_DETECTED"
      "Send a single statement per request.")
  else none

def fewJoins : Rule := fun s _ _ =>
  if s.countWord "join" ≥ tooManyJoins then
    some (.deny .joinComplexity "TOO_MANY_JOINS" "Reduce joins or add filters and indexes.")
  else none

/-- Plans made here say that they added a bound; of a plan from elsewhere only the bounded text is
known, and it counts if it differs from the statement. -/
def hasBoundedPlan (s : Statement) (p : Plan) : Bool :=
  p.limitInjected ||
    (let safe := Statement.ofSql p.safeSql
     !safe.isEmpty && safe != s)

/-- A statement that can touch every row passes only with a plan that bounds it. -/
def boundedRows : Rule := fun s p _ =>
  if !s.isUnbounded then none
  else
    let denial := Decision.deny .unboundedRead "NO_WHERE_OR_LIMIT"
      "Add WHERE filters or a LIMIT clause."
    if hasBoundedPlan s p then some { denial with allowed := true, policy := .safeLimitApplied }
    else some denial

def lowRisk : Rule := fun _ p _ =>
  if p.riskScore ≥ riskLimit then
    some (.deny .riskThreshold "HIGH_RISK_SCORE" "Apply filters, add LIMIT, or optimize indexes.")
  else none

def rules : List Rule := [barWrites, oneStatement, fewJoins, boundedRows, lowRisk]

def judge (sql : String) (plan : Plan) (readOnly : Bool) : Decision :=
  (rules.findSome? fun rule => rule (.ofSql sql) plan readOnly).getD .allow

end Policy

end QueryGuard
