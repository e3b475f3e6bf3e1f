import QueryGuard.Proofs.PolicyOrder
import QueryGuard.Proofs.RiskScore

/-!
What an engine's plan adds to the risk of a statement.

Two things are taken from an estimate: whether the cost is high, and whether any risks are told of.
Each of them adds points and reasons, behind those of the statement itself. A decision asks whether
the score is below the limit and looks at nothing else of the estimate, so what is allowed on some
evidence is allowed on less, and on none at all.
-/

namespace QueryGuard.Proofs.PlanEvidence

open Risk Policy PolicyOrder RiskScore

/-! ### Evidence -/

/-- What tells of a high cost or of risks in `m` does so in `m'`. -/
structure NoWeaker (m m' : Estimate) : Prop where
  cost : (∃ c, m.totalCost = some c ∧ c > 10000.0) → ∃ c, m'.totalCost = some c ∧ c > 10000.0
  risks : m.planRisks ≠ [] → m'.planRisks ≠ []

lemma noWeaker_empty (m : Estimate) : NoWeaker {} m where
  cost := by
    rintro ⟨c, hc, -⟩
    cases hc
  risks := fun h => absurd rfl h

/-- The plan that is built where the engine's plan comes to `m`. -/
def planWith (e : Explanation) (m : Estimate) (sql : String) (safeLimit : Nat)
    (schema : Option Schema) : Plan :=
  { Plan.ofExplanation e sql safeLimit schema with
    estimateMs := m.estimateMs
    planRows := m.planRows
    totalCost := m.totalCost
    riskScore := (assess sql m).score
    riskLevel := (assess sql m).level
    riskyReasons := (assess sql m).reasons
    improvements := (assess sql m).improvements
    notes := Plan.notesFor safeLimit (RowBound.bound sql safeLimit).2 m.estimateMs.isSome }

lemma planWith_estimate (e : Explanation) (sql : String) (safeLimit : Nat)
    (schema : Option Schema) :
    planWith e e.estimate sql safeLimit schema = Plan.ofExplanation e sql safeLimit schema := rfl

lemma estimate_of_failed {e : Explanation} (h : e.isOk = false) : e.estimate = {} := by
  obtain ⟨dialect, sql, answer⟩ := e
  match answer, h with
  | some (.error _), _ => rfl

/-! ### Points -/

section Points

variable {m m' : Estimate} (h : NoWeaker m m') (s : Statement)

/-- The points of the statement, and those of the evidence. -/
lemma points_signsOf (m : Estimate) : (signsOf s m).points =
    (signsOf s {}).points + 20 * (signsOf s m).costly.toNat +
      20 * (signsOf s m).planRisks.toNat := rfl

lemma costly_signsOf (m : Estimate) : (signsOf s m).costly = true ↔
    ∃ c, m.totalCost = some c ∧ c > 10000.0 := by
  unfold signsOf highCost
  cases m.totalCost with
  | none => simp
  | some cost => simp

include h

lemma costly_le : (signsOf s m).costly.toNat ≤ (signsOf s m').costly.toNat := by
  cases hm : (signsOf s m).costly with
  | false => exact Nat.zero_le _
  | true => rw [(costly_signsOf s m').2 (h.cost ((costly_signsOf s m).1 hm))]

lemma planRisks_le : (signsOf s m).planRisks.toNat ≤ (signsOf s m').planRisks.toNat := by
  have hrisks : ∀ m : Estimate, (signsOf s m).planRisks = true ↔ m.planRisks ≠ [] := by
    intro m
    simp [signsOf]
  cases hm : (signsOf s m).planRisks with
  | false => exact Nat.zero_le _
  | true => rw [(hrisks m').2 (h.risks ((hrisks m).1 hm))]

lemma points_le : (signsOf s m).points ≤ (signsOf s m').points := by
  have hcost := costly_le h s
  have hrisks := planRisks_le h s
  rw [points_signsOf, points_signsOf s m']
  omega

end Points

lemma hundredths_le {n n' : Nat} (h : n ≤ n') : hundredths n ≤ hundredths n' := by
  have htable : ∀ k ≤ 100, ∀ j ≤ k, Float.ofNat j / 100.0 ≤ Float.ofNat k / 100.0 := by
    decide +kernel
  exact htable _ (Nat.min_le_right n' 100) _ (by omega)

/-! ### Levels -/

/-- The place of a level among the levels. -/
def rank : RiskLevel → Nat
  | .low => 0
  | .medium => 1
  | .high => 2

lemma rank_hundredths (n : Nat) :
    rank (.ofScore (hundredths n)) = if 70 ≤ n then 2 else if 40 ≤ n then 1 else 0 := by
  have htable : ∀ k ≤ 100, rank (.ofScore (Float.ofNat k / 100.0)) =
      if 70 ≤ k then 2 else if 40 ≤ k then 1 else 0 := by
    decide +kernel
  rw [hundredths, htable _ (Nat.min_le_right n 100)]
  split_ifs <;> omega

lemma rank_le {n n' : Nat} (h : n ≤ n') :
    rank (.ofScore (hundredths n)) ≤ rank (.ofScore (hundredths n')) := by
  rw [rank_hundredths, rank_hundredths]
  split_ifs <;> omega

/-! ### Reasons -/

/-- The reasons that are given without any evidence. -/
def statedReasons (sql : String) : List String := (assess sql {}).reasons

/-- The reasons that an estimate gives, whatever the statement. -/
def evidenceReasons (m : Estimate) : List String :=
  (if (m.totalCost.map fun c => decide (c > 10000.0)).getD false then
    ["High planner cost detected."] else []) ++ m.planRisks

/-- The signal of an entry that fires. -/
def fired (entry : Bool × Signal) : Option Signal := if entry.1 then some entry.2 else none

/-- Of the signals only the last looks at the estimate. -/
lemma signals_eq_append (s : Statement) (m : Estimate) :
    signals s m = signals s {} ++
      if (m.totalCost.map fun c => decide (c > highCost)).getD false then [costly] else [] := by
  have hlast : ∀ (own : List (Bool × Signal)) (b : Bool),
      (own ++ [(b, costly)]).filterMap fired =
        (own ++ [(false, costly)]).filterMap fired ++ if b then [costly] else [] := by
    intro own b
    rw [List.filterMap_append, List.filterMap_append]
    cases b <;> simp [fired]
  exact hlast [(s.isUnbounded, unbounded), (s.hasWord "join", joined),
    (hasLeadingWildcard s, leadingWildcard), (s.hasWord "order by" && !s.hasLimit, unboundedOrder),
    (selectsAll s, allColumns)] _

lemma reasons_assess (sql : String) (m : Estimate) :
    (assess sql m).reasons = statedReasons sql ++ evidenceReasons m := by
  have hcost : ∀ b : Bool, (if b then [costly] else []).map (·.reason) =
      if b then ["High planner cost detected."] else [] := by
    intro b
    cases b <;> rfl
  unfold statedReasons assess evidenceReasons
  dsimp only
  rw [signals_eq_append, List.map_append, hcost, List.append_nil, List.append_assoc]
  rfl

/-! ### Decisions -/

section Decision

variable {m m' : Estimate} (h : NoWeaker m m') (e e' : Explanation) (sql : String)
  (safeLimit : Nat) (schema : Option Schema) (readOnly : Bool)

lemma reaches_limit_iff (m : Estimate) :
    (planWith e m sql safeLimit schema).riskScore ≥ riskLimit ↔
      70 ≤ (signsOf (.ofSql sql) m).points := by
  have hscore : (planWith e m sql safeLimit schema).riskScore =
      hundredths (signsOf (.ofSql sql) m).points := score_assess sql m
  rw [hscore, ge_iff_le, (threshold_hundredths _).1]

include h

/-- What is allowed on the evidence of `m'` is allowed on that of `m`. -/
lemma allowed_of_noWeaker
    (hallowed : (judge sql (planWith e' m' sql safeLimit schema) readOnly).allowed = true) :
    (judge sql (planWith e m sql safeLimit schema) readOnly).allowed = true := by
  have hbound : hasBoundedPlan (.ofSql sql) (planWith e m sql safeLimit schema) =
      hasBoundedPlan (.ofSql sql) (planWith e' m' sql safeLimit schema) := rfl
  rw [allowed_judge_iff_admitted, reaches_limit_iff] at hallowed ⊢
  obtain ⟨hadmitted, hrows⟩ := hallowed
  refine ⟨hadmitted, hrows.imp ?_ ?_⟩
  · rw [hbound]
    exact id
  · rintro ⟨hbounded, hlow⟩
    have hpoints := points_le h (.ofSql sql)
    exact ⟨hbounded, by omega⟩

end Decision

/-- **Evidence only ever tightens a decision.** With more evidence the score and its level do not
fall, the reasons of the statement stay in front of those of the evidence, and what is allowed was
allowed before. So nothing that an engine's answer lets pass is denied because EXPLAIN failed. -/
theorem evidence_tightens (sql : String) :
    (∀ m m', NoWeaker m m' →
      (assess sql m).score ≤ (assess sql m').score ∧
        rank (assess sql m).level ≤ rank (assess sql m').level ∧
        ∀ e e' safeLimit schema readOnly,
          (judge sql (planWith e' m' sql safeLimit schema) readOnly).allowed = true →
            (judge sql (planWith e m sql safeLimit schema) readOnly).allowed = true) ∧
    (∀ m, (assess sql m).reasons = statedReasons sql ++ evidenceReasons m) ∧
    ∀ (e e' : Explanation) (safeLimit : Nat) (schema : Option Schema) (readOnly : Bool),
      planWith e e.estimate sql safeLimit schema = Plan.ofExplanation e sql safeLimit schema ∧
        (e.isOk = false →
          (judge sql (Plan.ofExplanation e' sql safeLimit schema) readOnly).allowed = true →
            (judge sql (Plan.ofExplanation e sql safeLimit schema) readOnly).allowed = true) := by
  refine ⟨fun m m' h => ⟨?_, ?_, ?_⟩, reasons_assess sql, ?_⟩
  · rw [score_assess, score_assess]
    exact hundredths_le (points_le h _)
  · unfold Risk.level
    rw [score_assess, score_assess]
    exact rank_le (points_le h _)
  · exact fun e e' => allowed_of_noWeaker h e e' sql
  · intro e e' safeLimit schema readOnly
    refine ⟨planWith_estimate e sql safeLimit schema, fun hfailed => ?_⟩
    rw [← planWith_estimate e, ← planWith_estimate e', estimate_of_failed hfailed]
    exact allowed_of_noWeaker (noWeaker_empty _) e e' sql safeLimit schema readOnly

end QueryGuard.Proofs.PlanEvidence
