import QueryGuard.Proofs.RiskScore
import QueryGuard.Proofs.RunCalls
import QueryGuard.Proofs.WildcardPattern

/-!
When a high risk is denied, and when it is not.

The score is looked at by the last rule, and only of statements that have WHERE or LIMIT. Without
the points for having neither, nearly all others are needed to reach the threshold, among them two
that only one engine's plans can give.

A statement with neither is answered by the rule before. The bound of its plan lets it pass,
whatever its score.
-/

namespace QueryGuard.Proofs.RiskThreshold

open Policy PolicyOrder BoundedPlan RunCalls RiskScore WildcardPattern

/-! ### The signs -/

lemma unbounded_signsOf (s : Statement) (e : Estimate) :
    (signsOf s e).unbounded = s.isUnbounded := rfl

lemma joined_signsOf (s : Statement) (e : Estimate) :
    (signsOf s e).joined = s.hasWord "join" := rfl

lemma leadingWildcard_signsOf_iff (s : Statement) (e : Estimate) :
    (signsOf s e).leadingWildcard = true ↔ LikesWildcard s.text.toList :=
  hasLeadingWildcard_iff s

lemma unboundedOrder_signsOf_iff (s : Statement) (e : Estimate) :
    (signsOf s e).unboundedOrder = true ↔ s.hasWord "order by" = true ∧ s.hasLimit = false := by
  simp [signsOf]

lemma costly_signsOf_iff (s : Statement) (e : Estimate) :
    (signsOf s e).costly = true ↔ ∃ cost, e.totalCost = some cost ∧ cost > Risk.highCost := by
  unfold signsOf
  cases e.totalCost with
  | none => simp
  | some cost => simp

lemma planRisks_signsOf_iff (s : Statement) (e : Estimate) :
    (signsOf s e).planRisks = true ↔ e.planRisks ≠ [] := by
  simp [signsOf]

/-- What it takes to reach the threshold with WHERE or LIMIT. -/
lemma seventy_le_points_iff {g : Signs} (h : g.unbounded = false) :
    70 ≤ g.points ↔ g.leadingWildcard = true ∧ (g.joined = true ∨ g.unboundedOrder = true) ∧
      g.costly = true ∧ g.planRisks = true := by
  obtain ⟨b1, b2, b3, b4, b5, b6, b7⟩ := g
  revert b1 b2 b3 b4 b5 b6 b7
  decide

section Plan

variable (e : Explanation) (sql : String) (safeLimit : Nat) (schema : Option Schema)

lemma riskScore_ofExplanation :
    (Plan.ofExplanation e sql safeLimit schema).riskScore =
      hundredths (signsOf (.ofSql sql) e.estimate).points :=
  score_assess sql e.estimate

lemma riskLevel_ofExplanation :
    (Plan.ofExplanation e sql safeLimit schema).riskLevel =
      .ofScore (Plan.ofExplanation e sql safeLimit schema).riskScore := rfl

lemma riskScore_lt_iff :
    (Plan.ofExplanation e sql safeLimit schema).riskScore < riskLimit ↔
      ¬riskLimit ≤ (Plan.ofExplanation e sql safeLimit schema).riskScore := by
  rw [riskScore_ofExplanation, (threshold_hundredths _).1, (threshold_hundredths _).2]
  omega

end Plan

/-! ### The engines -/

/-- Costs are read from the plans of one engine only, and from none if EXPLAIN failed. -/
lemma totalCost_estimate_eq_none {e : Explanation}
    (h : e.dialect ≠ .postgres ∨ ∃ text, e.answer = some (.error text)) :
    e.estimate.totalCost = none := by
  obtain ⟨d, sql, answer⟩ := e
  rcases answer with _ | text | rows
  · rfl
  · rfl
  · have hd : d ≠ .postgres := by
      rcases h with h | ⟨text, h⟩
      · exact h
      · cases h
    cases d with
    | postgres => exact absurd rfl hd
    | sqlite => rfl
    | mysql => rfl
    | generic => rfl

lemma exists_explanation (db : Database) (sql : String) (safeLimit : Nat)
    (schema : Option Schema) :
    ∃ e : Explanation, (Plan.build db sql safeLimit schema).outcome =
        .ok (Plan.ofExplanation e sql safeLimit schema) ∧
      e.dialect = db.dialect ∧
      e.answer = some ((db.explain (db.dialect.explainSql sql)).mapError Failure.message) :=
  ⟨_, Plan.outcome_build db sql safeLimit schema, rfl, rfl⟩

/-! ### The rule -/

lemma policy_eq_riskThreshold_iff (e : Explanation) (sql : String) (safeLimit : Nat)
    (schema : Option Schema) (readOnly : Bool) {plan : Plan}
    (hplan : plan = Plan.ofExplanation e sql safeLimit schema) :
    (judge sql plan readOnly).policy = .riskThreshold ↔
      barWrites (.ofSql sql) plan readOnly = none ∧
        oneStatement (.ofSql sql) plan readOnly = none ∧
        fewJoins (.ofSql sql) plan readOnly = none ∧
        boundedRows (.ofSql sql) plan readOnly = none ∧
        LikesWildcard (Statement.ofSql sql).text.toList ∧
        ((Statement.ofSql sql).hasWord "join" = true ∨
          (Statement.ofSql sql).hasWord "order by" = true ∧
            (Statement.ofSql sql).hasLimit = false) ∧
        (∃ cost, e.estimate.totalCost = some cost ∧ cost > Risk.highCost) ∧
        e.estimate.planRisks ≠ [] := by
  rw [policy_judge_eq_riskThreshold_iff]
  refine and_congr_right fun _ => and_congr_right fun _ => and_congr_right fun _ =>
    and_congr_right fun hrows => ?_
  have hunbounded : (signsOf (.ofSql sql) e.estimate).unbounded = false := by
    rw [boundedRows_eq_none_iff] at hrows
    rwa [unbounded_signsOf]
  rw [ge_iff_le, hplan, riskScore_ofExplanation, (threshold_hundredths _).1,
    seventy_le_points_iff hunbounded, leadingWildcard_signsOf_iff, unboundedOrder_signsOf_iff,
    costly_signsOf_iff, planRisks_signsOf_iff, joined_signsOf]

/-- **When the score denies.** The rules before are silent, LIKE has a pattern with a leading
wildcard, there is a join or an ORDER BY without LIMIT, and the engine's plan is both costly and
risky. So the rule is without effect where the engine's plans tell no costs, or EXPLAIN failed. -/
theorem riskThreshold_iff (db : Database) (sql : String) (safeLimit : Nat)
    (schema : Option Schema) (readOnly : Bool) :
    ∃ plan, (Plan.build db sql safeLimit schema).outcome = .ok plan ∧
      ((judge sql plan readOnly).policy = .riskThreshold ↔
        barWrites (.ofSql sql) plan readOnly = none ∧
          oneStatement (.ofSql sql) plan readOnly = none ∧
          fewJoins (.ofSql sql) plan readOnly = none ∧
          boundedRows (.ofSql sql) plan readOnly = none ∧
          LikesWildcard (Statement.ofSql sql).text.toList ∧
          ((Statement.ofSql sql).hasWord "join" = true ∨
            (Statement.ofSql sql).hasWord "order by" = true ∧
              (Statement.ofSql sql).hasLimit = false) ∧
          (∃ cost, plan.totalCost = some cost ∧ cost > 10000.0) ∧
          plan.explanation.estimate.planRisks ≠ []) ∧
      (db.dialect ≠ .postgres → (judge sql plan readOnly).policy ≠ .riskThreshold) ∧
      (∀ f, db.explain (db.dialect.explainSql sql) = .error f →
        (judge sql plan readOnly).policy ≠ .riskThreshold) := by
  obtain ⟨e, hplan, hdialect, hanswer⟩ := exists_explanation db sql safeLimit schema
  have hiff := policy_eq_riskThreshold_iff e sql safeLimit schema readOnly rfl
  have hcheap (h : e.estimate.totalCost = none) :
      (judge sql (Plan.ofExplanation e sql safeLimit schema) readOnly).policy ≠
        .riskThreshold := by
    intro hpolicy
    obtain ⟨-, -, -, -, -, -, ⟨cost, hcost, -⟩, -⟩ := hiff.1 hpolicy
    rw [h] at hcost
    cases hcost
  refine ⟨_, hplan, hiff, fun hd => hcheap ?_, fun f hf => hcheap ?_⟩
  · rw [← hdialect] at hd
    exact totalCost_estimate_eq_none (.inl hd)
  · rw [hf] at hanswer
    exact totalCost_estimate_eq_none (.inr ⟨_, hanswer⟩)

/-- A costly scan of a whole table, with a join and such a pattern, is denied. -/
example :
    let sql := "select t.a from t join u on t.a = u.a where t.b like '%x%'"
    let node : Json := .obj [("Node Type", "Seq Scan"), ("Total Cost", .int 10001)]
    let answer : ResultSet := ⟨["QUERY PLAN"], [[node]], 1⟩
    (judge sql (.ofExplanation ⟨.postgres, "", some (.ok answer)⟩ sql 1000 none) true).policy =
      .riskThreshold := by
  decide +kernel

/-! ### What is not denied -/

lemma policy_judge_ne_allow {sql : String} {plan : Plan} (h : riskLimit ≤ plan.riskScore)
    (readOnly : Bool) : (judge sql plan readOnly).policy ≠ .allow := by
  rw [policy_judge]
  intro hallow
  split_ifs at hallow

/-- The score is not looked at once the bound of the plan has let a statement pass. -/
lemma allowed_iff_of_high {sql : String} {plan : Plan} (h : riskLimit ≤ plan.riskScore)
    (readOnly : Bool) :
    (judge sql plan readOnly).allowed = true ↔
      (judge sql plan readOnly).policy = .safeLimitApplied := by
  rw [allowed_judge_iff]
  exact or_iff_left (policy_judge_ne_allow h readOnly)

/-- **High risks.** A score is below the threshold or reaches it, as the level of the plan tells. A
statement whose score reaches it is allowed exactly when it has neither WHERE nor LIMIT and the
bound of its plan lets it pass. So what a checked run sends has a score below the threshold, or is
such a statement with the bound appended. -/
theorem high_risk_allowed_iff :
    (∀ (db : Database) (sql : String) (safeLimit : Nat) (schema : Option Schema)
        (readOnly : Bool),
      ∃ plan, (Plan.build db sql safeLimit schema).outcome = .ok plan ∧
        (plan.riskLevel = .high ↔ riskLimit ≤ plan.riskScore) ∧
        (plan.riskScore < riskLimit ↔ ¬riskLimit ≤ plan.riskScore) ∧
        (riskLimit ≤ plan.riskScore →
          ((judge sql plan readOnly).allowed = true ↔
            (judge sql plan readOnly).policy = .safeLimitApplied))) ∧
    ∀ (w : World) (limits : Limits) (sql text : String) (mode : RunMode),
      Call.query text ∈ (w.run limits sql ⟨mode, true⟩).calls ∨
          executedText (w.run limits sql ⟨mode, true⟩) = some text →
        ∃ plan, (Plan.build w.database sql limits.safe none).outcome = .ok plan ∧
          ((plan.riskScore < riskLimit ∧ plan.riskLevel ≠ .high) ∨
            ((judge sql plan true).policy = .safeLimitApplied ∧
              (Statement.ofSql sql).hasWord "where" = false ∧
              RowBound.hasLimit sql = false ∧ RowBound.hasLimit text = true)) := by
  constructor
  · intro db sql safeLimit schema readOnly
    obtain ⟨e, hplan, -, -⟩ := exists_explanation db sql safeLimit schema
    refine ⟨_, hplan, ?_, riskScore_lt_iff e sql safeLimit schema,
      fun h => allowed_iff_of_high h readOnly⟩
    rw [riskLevel_ofExplanation, ofScore_eq_high_iff]
  · intro w limits sql text mode hsent
    obtain ⟨plan, hplan, hheld, rfl⟩ := exists_of_sent w limits hsent
    obtain ⟨e, hplan', -, -⟩ := exists_explanation w.database sql limits.safe none
    obtain rfl : plan = Plan.ofExplanation e sql limits.safe none := by
      rw [hplan] at hplan'
      exact Except.ok.inj hplan'
    have hallowed := allowed_of_not_heldBack hheld rfl
    refine ⟨_, hplan, ?_⟩
    by_cases hhigh : riskLimit ≤ (Plan.ofExplanation e sql limits.safe none).riskScore
    · have hpolicy := (allowed_iff_of_high hhigh true).1 hallowed
      obtain ⟨-, -, -, hu, -⟩ := policy_judge_eq_safeLimitApplied_iff.1 hpolicy
      obtain ⟨hwhere, hlimit⟩ := (isUnbounded_ofSql_iff sql).1 hu
      exact .inr ⟨hpolicy, hwhere, hlimit,
        hasLimit_executedSql limits (safeSql_ofExplanation e sql limits.safe none) rfl⟩
    · refine .inl ⟨(riskScore_lt_iff e sql limits.safe none).2 hhigh, ?_⟩
      rw [riskLevel_ofExplanation, Ne, ofScore_eq_high_iff]
      exact hhigh

/-- A statement with neither WHERE nor LIMIT is sent by a checked run although its risk is high. -/
theorem high_risk_sent :
    ∃ w : World, ∃ plan,
      let sql := "SELECT * FROM a JOIN b ON a.n LIKE '%x%' ORDER BY a.n"
      (Plan.build w.database sql ({} : Limits).safe none).outcome = .ok plan ∧
        riskLimit ≤ plan.riskScore ∧ plan.riskLevel = .high ∧
        (judge sql plan true).allowed = true ∧
        executedText (w.run {} sql ⟨.execute, true⟩) =
          some "SELECT * FROM a JOIN b ON a.n LIKE '%x%' ORDER BY a.n LIMIT 1000" := by
  refine ⟨⟨⟨.sqlite, fun _ => .ok .empty, fun _ => .ok .empty, fun _ => .ok 0, .ok .empty⟩,
    none, 0, 0, fun _ => 0⟩, _, Plan.outcome_build _ _ _ _, ?_⟩
  decide +kernel

end QueryGuard.Proofs.RiskThreshold
