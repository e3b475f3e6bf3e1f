import QueryGuard.Gate.Workflow
import QueryGuard.Proofs.Terminator

/-!
What is sent while a statement is planned.

Building a plan, planning and asking without carrying out send one text for the database to run:
the statement that asks for a plan. Nothing is validated before, and only one semicolon is split
off, so that text is a single statement exactly when the planned one has no more than two
semicolons and only blanks between and behind them.
-/

namespace QueryGuard.Proofs.PlanCalls

open Text Terminator

/-- Whether a call has the database run a text. -/
def runsText : Call → Bool
  | .explain _ | .query _ | .write _ => true
  | .schema | .draft _ => false

/-! ### The calls -/

variable (w : World) (limits : Limits)

lemma calls_plan (sql : String) :
    (w.plan limits sql).calls = [.schema, .explain (w.database.dialect.explainSql sql)] := rfl

lemma calls_askWith (d : Draft) (request : String) (options : RunOptions) :
    (w.askWith limits d request false options).calls =
      [.explain (w.database.dialect.explainSql d.sql)] := rfl

lemma filter_newDraft (drafter : String → Schema → Except Failure String) (request : String)
    (schema : Schema) (store : Draft.Store) :
    (w.newDraft drafter request schema store).1.calls.filter runsText = [] := by
  unfold World.newDraft Traced.andThen
  cases drafter request schema <;> rfl

/-- A draft comes from the store or the drafter; the database is asked for its schema only. -/
lemma filter_draft (request : String) (store : Draft.Store) :
    (w.draft request store).1.calls.filter runsText = [] := by
  unfold World.draft
  cases w.drafter with
  | none => rfl
  | some drafter =>
    cases w.database.schema with
    | error e => rfl
    | ok schema =>
      dsimp only
      generalize store.getAt (Draft.cacheKey request schema) w.searchedAt = found
      obtain ⟨hit, store⟩ := found
      cases hit with
      | some sql => rfl
      | none => exact filter_newDraft w drafter request schema store

/-- An answer to a request sends what its draft sends, and then what is sent with the draft. -/
lemma ask_of_ok {request : String} {store : Draft.Store} {d : Draft}
    (h : (w.draft request store).1.outcome = .ok d) (execute : Bool) (options : RunOptions) :
    (w.ask limits request execute options store).1.calls =
      (w.draft request store).1.calls ++ (w.askWith limits d request execute options).calls := by
  unfold World.ask Traced.andThen
  simp only [h]

lemma ask_of_error {request : String} {store : Draft.Store} {e : Failure}
    (h : (w.draft request store).1.outcome = .error e) (execute : Bool) (options : RunOptions) :
    (w.ask limits request execute options store).1.calls = (w.draft request store).1.calls := by
  unfold World.ask Traced.andThen
  simp only [h]

/-! ### The text -/

lemma explainSql_begins (d : Dialect) (sql : String) :
    d.explainHead.toList <+: (d.explainSql sql).toList := by
  unfold Dialect.explainSql
  rw [String.toList_append]
  exact List.prefix_append _ _

lemma oneStatement_explainSql_iff (d : Dialect) (sql : String) :
    OneStatement (d.explainSql sql) ↔ SemicolonsLast 2 sql.toList := by
  have hhead : ';' ∉ d.explainHead.toList := by
    cases d <;> decide
  rw [oneStatement_iff_semicolonsLast, Dialect.explainSql, String.toList_append,
    semicolonsLast_append_iff hhead, ← semicolonsLast_succ_iff]

/-- **Planning sends one text.** Whatever is planned, and whatever the database answers, the one
text it is given to run is the request for a plan, which begins with the head of its dialect. It
is a single statement exactly when the planned text has at most two semicolons, and nothing but
blanks between and behind them. -/
theorem planning_sends_explain :
    (∀ sql, (w.plan limits sql).calls.filter runsText =
      [.explain (w.database.dialect.explainSql sql)]) ∧
    (∀ sql safeLimit schema, (Plan.build w.database sql safeLimit schema).calls.filter runsText =
      [.explain (w.database.dialect.explainSql sql)]) ∧
    (∀ request options store,
      (w.ask limits request false options store).1.calls.filter runsText =
        match (w.draft request store).1.outcome with
        | .ok d => [.explain (w.database.dialect.explainSql d.sql)]
        | .error _ => []) ∧
    ∀ (d : Dialect) (sql : String), d.explainHead.toList <+: (d.explainSql sql).toList ∧
      (OneStatement (d.explainSql sql) ↔ SemicolonsLast 2 sql.toList) := by
  refine ⟨fun sql => ?_, fun sql safeLimit schema => ?_, fun request options store => ?_,
    fun d sql => ⟨explainSql_begins d sql, oneStatement_explainSql_iff d sql⟩⟩
  · rw [calls_plan]
    rfl
  · rw [Plan.calls_build]
    rfl
  · cases h : (w.draft request store).1.outcome with
    | error e =>
      rw [ask_of_error w limits h, filter_draft]
    | ok d =>
      rw [ask_of_ok w limits h, List.filter_append, filter_draft, calls_askWith]
      rfl

/-- A DELETE rides along behind the request for the plan of a SELECT. -/
theorem second_statement_sent :
    ∃ w : World, (w.plan {} "SELECT 1; DELETE FROM users").calls =
        [.schema, .explain "EXPLAIN QUERY PLAN SELECT 1; DELETE FROM users"] ∧
      ¬OneStatement "EXPLAIN QUERY PLAN SELECT 1; DELETE FROM users" := by
  have htext : Dialect.sqlite.explainSql "SELECT 1; DELETE FROM users" =
      "EXPLAIN QUERY PLAN SELECT 1; DELETE FROM users" := by
    decide +kernel
  refine ⟨⟨⟨.sqlite, fun _ => .error .noDrafter, fun _ => .error .noDrafter,
    fun _ => .error .noDrafter, .error .noDrafter⟩, none, 0, 0, fun _ => 0⟩, ?_, by decide⟩
  rw [calls_plan, htext]

end QueryGuard.Proofs.PlanCalls
