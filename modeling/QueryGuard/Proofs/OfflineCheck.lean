import QueryGuard.CommandLine.Session
import QueryGuard.Proofs.RiskThreshold
import QueryGuard.Proofs.WriteCalls

/-!
Checks without a database.

A check asks of a text what a run or a write asks of it, but there is no plan, and it judges by the
plan of nothing. A write is judged by that plan anyway. A run has a plan whose bound lets a
statement pass that has none of its own, and this is all that tells it from a check where EXPLAIN
fails, for the score is then too low to deny.
-/

namespace QueryGuard.Proofs.OfflineCheck

open CommandLine Policy Text BlockedWords PolicyOrder BoundedPlan RiskThreshold RunCalls WriteCalls
open TextRuns (isWordEnd)

/-- What a check shows is positive: the text is valid, and the policy allows it. -/
def Positive (e : Ending) : Prop :=
  ∃ report validation decision, e.output = some (.document report) ∧
    report.field? "validation" = some validation ∧ validation.field? "ok" = some (.bool true) ∧
    report.field? "policy" = some decision ∧ decision.field? "allowed" = some (.bool true)

/-- A run is rejected or blocked. -/
def TurnedAway (x : Traced RunOutcome) : Prop :=
  (∃ refusal, x.outcome = .ok (.rejected refusal)) ∨
    ∃ plan decision, x.outcome = .ok (.blocked plan decision)

variable {sql : String}

/-! ### The two judgements -/

lemma allowed_judge_blank_iff (sql : String) (readOnly : Bool) :
    (judge sql .blank readOnly).allowed = true ↔
      Admitted (.ofSql sql) readOnly ∧ (Statement.ofSql sql).isUnbounded = false := by
  rw [allowed_judge_iff_admitted, hasBoundedPlan_blank]
  simp [riskScore_blank]

/-- No engine's answer, no costs: the score of a bounded statement stays below the threshold. -/
lemma not_high_of_failed {e : Explanation} {text : String} (he : e.answer = some (.error text))
    (hbounded : (Statement.ofSql sql).isUnbounded = false) (safeLimit : Nat)
    (schema : Option Schema) :
    ¬(Plan.ofExplanation e sql safeLimit schema).riskScore ≥ riskLimit := by
  rw [ge_iff_le, riskScore_ofExplanation, (RiskScore.threshold_hundredths _).1]
  intro hhigh
  have hsign := (unbounded_signsOf (.ofSql sql) e.estimate).trans hbounded
  obtain ⟨-, -, hcost, -⟩ := (seventy_le_points_iff hsign).1 hhigh
  obtain ⟨cost, hcost, -⟩ := (costly_signsOf_iff _ _).1 hcost
  rw [totalCost_estimate_eq_none (.inr ⟨text, he⟩)] at hcost
  cases hcost

/-- A plan without an explanation lets pass what the rules about the statement leave to it. -/
lemma allowed_judge_of_failed {e : Explanation} {text : String}
    (he : e.answer = some (.error text)) (sql : String) (safeLimit : Nat) (schema : Option Schema)
    (readOnly : Bool) :
    (judge sql (Plan.ofExplanation e sql safeLimit schema) readOnly).allowed = true ↔
      Admitted (.ofSql sql) readOnly := by
  rw [allowed_judge_iff_admitted]
  refine and_iff_left ?_
  cases hu : (Statement.ofSql sql).isUnbounded with
  | false => exact .inr ⟨rfl, not_high_of_failed he hu safeLimit schema⟩
  | true =>
    refine .inl ⟨rfl, ?_⟩
    unfold hasBoundedPlan
    rw [limitInjected_ofExplanation, ((isUnbounded_ofSql_iff sql).1 hu).2]
    rfl

/-! ### The check -/

lemma ok_toJson_iff (r : Option Refusal) :
    (Validation.toJson r).field? "ok" = some (.bool true) ↔ r = none := by
  cases r <;> simp [Validation.toJson, Json.field?, List.lookup]

lemma allowed_toJson_iff (d : Decision) :
    d.toJson.field? "allowed" = some (.bool true) ↔ d.allowed = true := by
  simp [Decision.toJson, Json.field?, List.lookup]

lemma positive_check_iff {h : Host} {s : Settings} (hlog : checkFilter s.logFilter = .ok ())
    (sql : String) (write : Bool) :
    Positive (session h s (.check sql write)) ↔
      (if write then Validation.write sql else Validation.read sql) = none ∧
        (judge sql .blank (!write)).allowed = true := by
  have hsession : session h s (.check sql write) =
      .shown (.document (checkReport sql write)) none .disabled := by
    unfold session
    rw [hlog]
  rw [hsession, ← ok_toJson_iff, ← allowed_toJson_iff]
  constructor
  · rintro ⟨report, validation, decision, hreport, hv, hok, hp, hallowed⟩
    cases hreport
    cases hv
    cases hp
    exact ⟨hok, hallowed⟩
  · rintro ⟨hok, hallowed⟩
    exact ⟨_, _, _, rfl, rfl, hok, rfl, hallowed⟩

/-! ### The run -/

variable (w : World) (limits : Limits) {plan : Plan}

lemma turnedAway_carryOut_iff (sql : String) (mode : RunMode) (plan : Plan) (metrics : Metrics) :
    TurnedAway (w.carryOut limits sql ⟨mode, true⟩ plan metrics) ↔
      (judge sql plan true).allowed = false := by
  cases hd : (judge sql plan true).allowed with
  | false =>
    refine iff_of_true (.inr ⟨plan, judge sql plan true, ?_⟩) rfl
    unfold World.carryOut
    simp [hd, Traced.ok]
  | true =>
    refine iff_of_false ?_ (by simp)
    by_cases hmode : mode = .explain
    · subst hmode
      unfold World.carryOut
      simp [hd, TurnedAway, Traced.ok]
    · have hheld : ¬HeldBack sql ⟨mode, true⟩ plan := by
        rintro (⟨-, hdenied⟩ | hexplain)
        · rw [hd] at hdenied
          cases hdenied
        · exact hmode hexplain
      have hexecuted := (carryOut_of_not_heldBack w limits hheld metrics).2
      rintro (⟨refusal, ho⟩ | ⟨plan', decision, ho⟩)
      · obtain ⟨_, _, h⟩ := hexecuted _ ho
        cases h
      · obtain ⟨_, _, h⟩ := hexecuted _ ho
        cases h

lemma not_turnedAway_run_iff {f : Failure}
    (hf : w.database.explain (w.database.dialect.explainSql sql) = .error f) (mode : RunMode) :
    ¬TurnedAway (w.run limits sql ⟨mode, true⟩) ↔
      Validation.read sql = none ∧ Admitted (.ofSql sql) true := by
  cases hread : Validation.read sql with
  | some refusal =>
    have hrun : w.run limits sql ⟨mode, true⟩ = .ok (.rejected refusal) := by
      unfold World.run
      rw [hread]
    rw [hrun]
    exact iff_of_false (not_not.2 (.inl ⟨refusal, rfl⟩)) (by simp)
  | none =>
    obtain ⟨e, hplan, -, hanswer⟩ := exists_explanation w.database sql limits.safe none
    obtain ⟨metrics, hrun⟩ := run_of_read w limits ⟨mode, true⟩ hread hplan
    rw [hf] at hanswer
    have hcarried := turnedAway_carryOut_iff w limits sql mode
      (Plan.ofExplanation e sql limits.safe none) metrics
    rw [← Bool.not_eq_true, allowed_judge_of_failed hanswer] at hcarried
    rw [hrun]
    unfold TurnedAway at hcarried ⊢
    rw [hcarried, not_not]
    exact (and_iff_right rfl).symm

/-! ### Agreement -/

lemma isUnbounded_eq_false_iff_stands (sql : String) :
    (Statement.ofSql sql).isUnbounded = false ↔
      Stands isBlank isBlank "where" sql ∨ Stands isWordEnd isWordEnd "limit" sql := by
  rw [isUnbounded_eq_false_iff, hasWord_iff_stands isKeyword_where, hasLimit_iff_stands]

/-- What a check asks of a write is what lets an approved write through. -/
lemma checked_write_iff (sql : String) :
    Validation.write sql = none ∧ (judge sql .blank false).allowed = true ↔ MayWrite sql true := by
  refine ⟨fun ⟨haccepted, hallowed⟩ => ?_, fun h => ⟨h.accepted, ?_⟩⟩
  · by_contra hno
    have hdenied := (judge_of_not_mayWrite haccepted hno).1
    rw [Bool.not_true, hallowed] at hdenied
    cases hdenied
  · have hallow := judge_of_mayWrite h
    rw [Bool.not_true] at hallow
    rw [hallow]
    rfl

/-- **Checks and the gate.** Where EXPLAIN fails, a check of a read is positive exactly when the
checked run is neither rejected nor blocked and the text has the word WHERE or the word LIMIT: the
bound that the run appends is all that a check lacks. A check of a write is positive exactly when
the approved write is sent. -/
theorem check_agrees {h : Host} {s : Settings} (hlog : checkFilter s.logFilter = .ok ())
    (sql : String) :
    (∀ (w : World) (limits : Limits) (mode : RunMode) (f : Failure),
      w.database.explain (w.database.dialect.explainSql sql) = .error f →
        (Positive (session h s (.check sql false)) ↔
          ¬TurnedAway (w.run limits sql ⟨mode, true⟩) ∧
            (Stands isBlank isBlank "where" sql ∨ Stands isWordEnd isWordEnd "limit" sql))) ∧
    ∀ w : World, Positive (session h s (.check sql true)) ↔
      Call.write sql ∈ (w.write sql true).calls := by
  refine ⟨fun w limits mode f hf => ?_, fun w => ?_⟩
  · rw [positive_check_iff hlog, not_turnedAway_run_iff w limits hf,
      ← isUnbounded_eq_false_iff_stands, and_assoc, ← allowed_judge_blank_iff]
    simp only [Bool.false_eq_true, if_false, Bool.not_false]
  · rw [positive_check_iff hlog, mem_calls_write_iff, ← checked_write_iff]
    simp only [if_true, Bool.not_true, true_and]

/-- A host whose database explains nothing. -/
def silentHost : Host :=
  ⟨[], fun _ => .error .missingKey, fun _ _ _ => .error .noDrafter, fun _ => .disabled, "",
    fun _ => 0⟩

/-- A world in which every EXPLAIN fails. -/
def unexplained : World :=
  ⟨⟨.sqlite, fun _ => .error (.database (.reported "no such table")), fun _ => .ok .empty,
    fun _ => .ok 0, .ok .empty⟩, none, 0, 0, fun _ => 0⟩

lemma checkFilter_info : checkFilter "info" = .ok () := by
  have hnone : (filterFault? "info").isNone = true := by decide +kernel
  unfold checkFilter
  rw [Option.isNone_iff_eq_none.1 hnone]

/-- A statement with a WHERE passes the check and the run. -/
theorem check_agrees_filtered :
    let sql := "SELECT id FROM users WHERE id = 1"
    let check := session silentHost ⟨none, none, "info", none, {}⟩ (.check sql false)
    checkFilter "info" = .ok () ∧
      unexplained.database.explain (unexplained.database.dialect.explainSql sql) =
        .error (.database (.reported "no such table")) ∧
      Positive check ∧ ¬TurnedAway (unexplained.run {} sql ⟨.execute, true⟩) := by
  intro sql check
  have hlog := checkFilter_info
  have hagree := (check_agrees (h := silentHost) (s := ⟨none, none, "info", none, {}⟩) hlog sql).1
    unexplained {} .execute _ rfl
  have hpositive : Positive check := by
    rw [positive_check_iff hlog]
    decide +kernel
  exact ⟨hlog, rfl, hpositive, (hagree.1 hpositive).1⟩

/-- A statement with neither passes the run only. -/
theorem unbounded_read_differs :
    let sql := "SELECT * FROM users"
    let check := session silentHost ⟨none, none, "info", none, {}⟩ (.check sql false)
    unexplained.database.explain (unexplained.database.dialect.explainSql sql) =
        .error (.database (.reported "no such table")) ∧
      ¬Positive check ∧ ¬TurnedAway (unexplained.run {} sql ⟨.execute, true⟩) ∧
      executedText (unexplained.run {} sql ⟨.execute, true⟩) =
        some "SELECT * FROM users LIMIT 1000" := by
  intro sql check
  refine ⟨rfl, ?_, ?_, by decide +kernel⟩
  · rw [positive_check_iff checkFilter_info]
    decide +kernel
  · rw [not_turnedAway_run_iff unexplained {} (f := .database (.reported "no such table")) rfl]
    exact ⟨by decide +kernel, by decide +kernel, by decide +kernel, by decide +kernel⟩

end QueryGuard.Proofs.OfflineCheck
