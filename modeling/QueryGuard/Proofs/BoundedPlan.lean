import QueryGuard.Proofs.AppendedBound
import QueryGuard.Proofs.PolicyOrder

/-!
The plan and the policy agree on what is bounded.

The plan appends a bound when the text has none; the policy asks the normalised statement. Both
get the same answer, so a statement that the policy finds unbounded has a plan that bounds it.
-/

namespace QueryGuard.Proofs.BoundedPlan

open Policy StatementWords AppendedBound PolicyOrder

section Plan

variable (e : Explanation) (sql : String) (safeLimit : Nat) (schema : Option Schema)

lemma safeSql_ofExplanation :
    (Plan.ofExplanation e sql safeLimit schema).safeSql = (RowBound.bound sql safeLimit).1 := rfl

lemma limitInjected_ofExplanation :
    (Plan.ofExplanation e sql safeLimit schema).limitInjected = !RowBound.hasLimit sql :=
  RowBound.snd_bound sql safeLimit

end Plan

/-- What building gives: whatever the database answers, the bounded text of the statement, marked
when the bound was added. -/
lemma exists_build (db : Database) (sql : String) (safeLimit : Nat) (schema : Option Schema) :
    ∃ plan, (Plan.build db sql safeLimit schema).outcome = .ok plan ∧
      plan.safeSql = (RowBound.bound sql safeLimit).1 ∧
      plan.limitInjected = !RowBound.hasLimit sql :=
  ⟨_, Plan.outcome_build db sql safeLimit schema, safeSql_ofExplanation _ sql safeLimit schema,
    limitInjected_ofExplanation _ sql safeLimit schema⟩

lemma isUnbounded_ofSql_iff (sql : String) :
    (Statement.ofSql sql).isUnbounded = true ↔
      (Statement.ofSql sql).hasWord "where" = false ∧ RowBound.hasLimit sql = false := by
  rw [Statement.isUnbounded, hasLimit_ofSql, Bool.and_eq_true, Bool.not_eq_true',
    Bool.not_eq_true']

/-- **Bounded plans.** Text and statement agree on whether there is a bound. So no statement is
denied as unbounded by the plan that is built for it, and the bound of the plan is what lets it
pass exactly when the rules before were silent and it has neither WHERE nor LIMIT; the bound is
then there. -/
theorem bound_agrees :
    (∀ sql, (Statement.ofSql sql).hasLimit = RowBound.hasLimit sql) ∧
    ∀ (db : Database) (sql : String) (safeLimit : Nat) (schema : Option Schema) (readOnly : Bool),
      ∃ plan, (Plan.build db sql safeLimit schema).outcome = .ok plan ∧
        (judge sql plan readOnly).policy ≠ .unboundedRead ∧
        ((judge sql plan readOnly).policy = .safeLimitApplied ↔
          barWrites (.ofSql sql) plan readOnly = none ∧
            oneStatement (.ofSql sql) plan readOnly = none ∧
            fewJoins (.ofSql sql) plan readOnly = none ∧
            (Statement.ofSql sql).hasWord "where" = false ∧
            (Statement.ofSql sql).hasLimit = false) ∧
        ((judge sql plan readOnly).policy = .safeLimitApplied →
          plan.limitInjected = true ∧ RowBound.hasLimit plan.safeSql = true) := by
  refine ⟨hasLimit_ofSql, fun db sql safeLimit schema readOnly => ?_⟩
  obtain ⟨plan, hplan, hsafe, hinj⟩ := exists_build db sql safeLimit schema
  have hinjected : (Statement.ofSql sql).isUnbounded = true → plan.limitInjected = true := by
    intro hu
    rw [hinj, ((isUnbounded_ofSql_iff sql).1 hu).2]
    rfl
  have hbounded : (Statement.ofSql sql).isUnbounded = true →
      hasBoundedPlan (.ofSql sql) plan = true := by
    intro hu
    unfold hasBoundedPlan
    rw [hinjected hu, Bool.true_or]
  refine ⟨plan, hplan, policy_judge_ne_unboundedRead hbounded, ?_, fun h => ?_⟩
  · rw [policy_judge_eq_safeLimitApplied_iff, hasLimit_ofSql, ← isUnbounded_ofSql_iff]
    have hboth := and_iff_left_of_imp hbounded
    rw [hboth]
  · obtain ⟨-, -, -, hu, -⟩ := policy_judge_eq_safeLimitApplied_iff.1 h
    refine ⟨hinjected hu, ?_⟩
    rw [hsafe]
    exact hasLimit_bound sql safeLimit

end QueryGuard.Proofs.BoundedPlan
