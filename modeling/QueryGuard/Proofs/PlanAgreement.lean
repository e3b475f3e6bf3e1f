import QueryGuard.Proofs.EndingCalls
import QueryGuard.Proofs.PlanCalls
import QueryGuard.Proofs.RunCalls

/-!
Planning, running and asking agree.

The three make their plans with the schema at hand, without one, and with the schema of a draft.
The schema goes into the join paths and nowhere else: the policy does not look at them, nor does
what is sent depend on them. So a plan is judged alike in all three, and a request that is drafted
and carried out comes to what a run of its draft comes to.
-/

namespace QueryGuard.Proofs.PlanAgreement

open EndingCalls PlanCalls RunCalls

/-- Two databases of one kind that answer requests for plans, and queries, alike. Their schemas may
differ, and reading one may fail. -/
structure AnswerAlike (a b : Database) : Prop where
  dialect : a.dialect = b.dialect
  explain : ∀ sql, a.explain sql = b.explain sql
  query : ∀ sql, a.query sql = b.query sql

/-- A plan but for its join paths. -/
def pathless (p : Plan) : Plan := { p with outline := { p.outline with joinPaths := [] } }

/-- What came of a run, but for the join paths of its plan and the times it took. -/
def timeless : RunOutcome → RunOutcome
  | .rejected refusal => .rejected refusal
  | .blocked plan d => .blocked (pathless plan) d
  | .explained plan d _ => .explained (pathless plan) d {}
  | .executed sql result plan d _ => .executed sql result (pathless plan) d {}

/-- The plan that a run shows. -/
def plan? : RunOutcome → Option Plan
  | .rejected _ => none
  | .blocked plan _ => some plan
  | .explained plan _ _ => some plan
  | .executed _ _ plan _ _ => some plan

/-! ### Plans -/

/-- The explanation that a database gives of a statement. -/
def explained (db : Database) (sql : String) : Explanation :=
  ⟨db.dialect, db.dialect.explainSql sql,
    some ((db.explain (db.dialect.explainSql sql)).mapError Failure.message)⟩

lemma explained_congr {a b : Database} (h : AnswerAlike a b) (sql : String) :
    explained a sql = explained b sql := by
  unfold explained
  rw [h.dialect, h.explain]

lemma pathless_ofExplanation (e : Explanation) (sql : String) (safeLimit : Nat)
    (schema schema' : Option Schema) :
    pathless (.ofExplanation e sql safeLimit schema) =
      pathless (.ofExplanation e sql safeLimit schema') := rfl

lemma rule_pathless {rule : Policy.Rule} (h : rule ∈ Policy.rules) (s : Statement) (p : Plan)
    (readOnly : Bool) : rule s (pathless p) readOnly = rule s p readOnly := by
  simp only [Policy.rules, List.mem_cons, List.not_mem_nil, or_false] at h
  rcases h with rfl | rfl | rfl | rfl | rfl
  all_goals rfl

/-- The policy does not look at the join paths. -/
lemma judge_pathless (sql : String) (p : Plan) (readOnly : Bool) :
    Policy.judge sql (pathless p) readOnly = Policy.judge sql p readOnly := by
  unfold Policy.judge
  generalize Statement.ofSql sql = s
  have h : (Policy.rules.map fun rule => rule s (pathless p) readOnly) =
      Policy.rules.map fun rule => rule s p readOnly :=
    List.map_congr_left fun rule hrule => rule_pathless hrule s p readOnly
  have hfind := congrArg (List.findSome? id) h
  rw [List.findSome?_map, List.findSome?_map] at hfind
  exact congrArg (fun d : Option Decision => d.getD .allow) hfind

/-- Nor does what is sent depend on them. -/
lemma executedSql_pathless (limits : Limits) (sql : String) (p : Plan) (options : RunOptions) :
    World.executedSql limits sql (pathless p) options =
      World.executedSql limits sql p options := rfl

lemma judge_congr {p q : Plan} (h : pathless p = pathless q) (sql : String) (readOnly : Bool) :
    Policy.judge sql p readOnly = Policy.judge sql q readOnly := by
  rw [← judge_pathless, h, judge_pathless]

/-! ### Carrying out -/

variable (limits : Limits)

lemma carryOut_congr {w w' : World} (hdb : AnswerAlike w.database w'.database) {p q : Plan}
    (h : pathless p = pathless q) (sql : String) (options : RunOptions) (m m' : Metrics) :
    (w.carryOut limits sql options p m).calls = (w'.carryOut limits sql options q m').calls ∧
      (w.carryOut limits sql options p m).outcome.map timeless =
        (w'.carryOut limits sql options q m').outcome.map timeless := by
  have htext : World.executedSql limits sql p options =
      World.executedSql limits sql q options := by
    rw [← executedSql_pathless, h, executedSql_pathless]
  unfold World.carryOut
  rw [judge_congr h, htext]
  dsimp only
  split
  · refine ⟨rfl, ?_⟩
    simp only [Traced.ok, Except.map, timeless, h]
  · split
    · refine ⟨rfl, ?_⟩
      simp only [Traced.ok, Except.map, timeless, h]
    · generalize World.executedSql limits sql q options = text
      cases hq : w'.database.query text with
      | error e =>
        rw [Traced.bind_of_error (e := e) ((hdb.query text).trans hq),
          Traced.bind_of_error (e := e) hq]
        exact ⟨rfl, rfl⟩
      | ok result =>
        rw [Traced.bind_of_ok (a := result) ((hdb.query text).trans hq),
          Traced.bind_of_ok (a := result) hq]
        refine ⟨rfl, ?_⟩
        simp only [pure, Traced.ok, Except.map, timeless, h]

/-- Carrying out sends nothing, or one query. -/
lemma calls_carryOut (w : World) (sql : String) (options : RunOptions) (plan : Plan)
    (metrics : Metrics) :
    (w.carryOut limits sql options plan metrics).calls = [] ∨
      ∃ text, (w.carryOut limits sql options plan metrics).calls = [.query text] := by
  by_cases hheld : HeldBack sql options plan
  · exact .inl (carryOut_of_heldBack w limits hheld metrics).1
  · exact .inr ⟨_, (carryOut_of_not_heldBack w limits hheld metrics).1⟩

/-- What is carried out shows the plan that it was given, and its judgement. -/
lemma shown_of_carryOut {w : World} {sql : String} {options : RunOptions} {plan : Plan}
    {metrics : Metrics} {o : RunOutcome}
    (h : (w.carryOut limits sql options plan metrics).outcome = .ok o) :
    plan? o = some plan ∧ o.decision? = some (Policy.judge sql plan true) := by
  by_cases hheld : HeldBack sql options plan
  · rcases (carryOut_of_heldBack w limits hheld metrics).2 with hout | hout
    · rw [hout] at h
      cases h
      exact ⟨rfl, rfl⟩
    · rw [hout] at h
      cases h
      exact ⟨rfl, rfl⟩
  · obtain ⟨result, metrics', rfl⟩ := (carryOut_of_not_heldBack w limits hheld metrics).2 o h
    exact ⟨rfl, rfl⟩

/-! ### The three ways -/

/-- The plan that the three make, but for the join paths. -/
def planOf (db : Database) (sql : String) (schema : Option Schema) : Plan :=
  .ofExplanation (explained db sql) sql limits.safe schema

lemma planOf_congr {a b : Database} (h : AnswerAlike a b) (sql : String)
    (schema schema' : Option Schema) :
    pathless (planOf limits a sql schema) = pathless (planOf limits b sql schema') := by
  unfold planOf
  rw [explained_congr h]
  exact pathless_ofExplanation _ sql limits.safe schema schema'

lemma outcome_plan (w : World) (sql : String) :
    ∃ metrics, (w.plan limits sql).outcome =
      .ok ⟨sql, planOf limits w.database sql w.database.schema.toOption,
        Policy.judge sql (planOf limits w.database sql w.database.schema.toOption) true,
        metrics⟩ :=
  ⟨_, rfl⟩

lemma run_eq {sql : String} (hread : Validation.read sql = none) (w : World)
    (options : RunOptions) :
    ∃ metrics, w.run limits sql options =
      ⟨.explain (w.database.dialect.explainSql sql) ::
        (w.carryOut limits sql options (planOf limits w.database sql none) metrics).calls,
        (w.carryOut limits sql options (planOf limits w.database sql none) metrics).outcome⟩ :=
  run_of_read w limits options hread rfl

/-- The times that an answer to a request tells of. -/
def askMetrics (w : World) (d : Draft) : Metrics where
  schemaMs := some d.schemaMs
  draftMs := some d.draftMs
  planMs := some (w.elapsed .plan)
  cacheHit := some d.cacheHit

/-- An answer to a request, with the run of its draft if there was one. -/
def answerWith (w : World) (d : Draft) (request : String) (run : Option RunOutcome) : AskOutcome :=
  let plan := planOf limits w.database d.sql (some d.schema)
  ⟨request, d.sql, plan, Policy.judge d.sql plan true, askMetrics w d, run⟩

lemma outcome_askWith_false (w : World) (d : Draft) (request : String) (options : RunOptions) :
    (w.askWith limits d request false options).outcome = .ok (answerWith limits w d request none) :=
  rfl

lemma bind_pure {α β : Type} (x : Traced α) (f : α → β) :
    (x >>= fun a => pure (f a)) = ⟨x.calls, x.outcome.map f⟩ := by
  cases h : x.outcome with
  | error e =>
    rw [Traced.bind_of_error h]
    rfl
  | ok a =>
    rw [Traced.bind_of_ok h]
    show Traced.mk (x.calls ++ []) _ = _
    rw [List.append_nil]
    rfl

lemma askWith_true {d : Draft} (hread : Validation.read d.sql = none) (w : World)
    (request : String) (options : RunOptions) :
    w.askWith limits d request true options =
      ⟨.explain (w.database.dialect.explainSql d.sql) ::
          (w.carryOut limits d.sql options (planOf limits w.database d.sql (some d.schema))
            (askMetrics w d)).calls,
        (w.carryOut limits d.sql options (planOf limits w.database d.sql (some d.schema))
          (askMetrics w d)).outcome.map fun run => answerWith limits w d request (some run)⟩ := by
  unfold World.askWith
  rw [Traced.bind_of_ok (Plan.outcome_build _ _ _ _), Plan.calls_build]
  simp only [if_true]
  unfold World.runPlanned
  rw [hread]
  simp only [bind_pure]
  rfl

/-- The outcome of an answer to a request is that of what is done with its draft. -/
lemma outcome_ask {w : World} {request : String} {store : Draft.Store} {d : Draft}
    (h : (w.draft request store).1.outcome = .ok d) (execute : Bool) (options : RunOptions) :
    (w.ask limits request execute options store).1.outcome =
      (w.askWith limits d request execute options).outcome := by
  unfold World.ask Traced.andThen
  simp only [h]

lemma filter_ask {w : World} {request : String} {store : Draft.Store} {d : Draft}
    (h : (w.draft request store).1.outcome = .ok d) (execute : Bool) (options : RunOptions) :
    (w.ask limits request execute options store).1.calls.filter runsText =
      (w.askWith limits d request execute options).calls.filter runsText := by
  rw [ask_of_ok w limits h, List.filter_append, filter_draft, List.nil_append]

/-! ### The agreement -/

lemma AnswerAlike.symm {a b : Database} (h : AnswerAlike a b) : AnswerAlike b a :=
  ⟨h.dialect.symm, fun sql => (h.explain sql).symm, fun sql => (h.query sql).symm⟩

lemma AnswerAlike.trans {a b c : Database} (h : AnswerAlike a b) (h' : AnswerAlike b c) :
    AnswerAlike a c :=
  ⟨h.dialect.trans h'.dialect, fun sql => (h.explain sql).trans (h'.explain sql),
    fun sql => (h.query sql).trans (h'.query sql)⟩

/-- What a plan and a run of one statement have in common. -/
structure RunFits (p : PlanOutcome) (o : RunOutcome) : Prop where
  plan : (plan? o).map pathless = some (pathless p.plan)
  decision : o.decision? = some p.decision

/-- What a plan and the answer to a request that is drafted as its statement have in common. -/
structure AnswerFits (p : PlanOutcome) (a : AskOutcome) : Prop where
  sql : a.sql = p.sql
  plan : pathless a.plan = pathless p.plan
  decision : a.decision = p.decision

variable {w w' : World} {sql : String}

lemma run_fits (hread : Validation.read sql = none) {schema : Option Schema}
    (hdb : AnswerAlike w.database w'.database) {options : RunOptions} {o : RunOutcome}
    (ho : (w'.run limits sql options).outcome = .ok o) (metrics : Metrics) :
    RunFits ⟨sql, planOf limits w.database sql schema,
      Policy.judge sql (planOf limits w.database sql schema) true, metrics⟩ o := by
  have hplan := planOf_congr limits hdb sql schema none
  obtain ⟨m, hrun⟩ := run_eq limits hread w' options
  rw [hrun] at ho
  obtain ⟨hp, hd⟩ := shown_of_carryOut limits ho
  exact ⟨by rw [hp, hplan]; rfl, by rw [hd, judge_congr hplan]⟩

lemma executedSql_safe (sql : String) (p : Plan) :
    World.executedSql limits sql p ⟨.execute, true⟩ = p.safeSql := rfl

lemma safeSql_congr {p q : Plan} (h : pathless p = pathless q) : p.safeSql = q.safeSql := by
  show (pathless p).safeSql = (pathless q).safeSql
  rw [h]

/-- What a run executes under the policy and in full is the text that the plan recommends. -/
lemma text_of_safe {schema : Option Schema} (hdb : AnswerAlike w.database w'.database)
    {text : String} (h : executedText (w'.run limits sql ⟨.execute, true⟩) = some text) :
    text = (planOf limits w.database sql schema).safeSql := by
  obtain ⟨q, hq, -, htext⟩ := exists_of_sent w' limits (.inr h)
  have hq' : planOf limits w'.database sql none = q := Except.ok.inj hq
  rw [htext, executedSql_safe, ← hq']
  exact (safeSql_congr (planOf_congr limits hdb sql schema none)).symm

lemma calls_run (hread : Validation.read sql = none) (options : RunOptions) :
    (w.run limits sql options).calls = [.explain (w.database.dialect.explainSql sql)] ∨
      ∃ text, (w.run limits sql options).calls =
        [.explain (w.database.dialect.explainSql sql), .query text] := by
  obtain ⟨m, hrun⟩ := run_eq limits hread w options
  rw [hrun]
  rcases calls_carryOut limits w sql options (planOf limits w.database sql none) m with h | ⟨t, h⟩
  · exact .inl (by rw [h])
  · exact .inr ⟨t, by rw [h]⟩

/-- A run fails with the failure of its query. -/
lemma query_of_error (hread : Validation.read sql = none) (options : RunOptions) {e : Failure}
    (he : (w.run limits sql options).outcome = .error e) :
    ∃ text, Call.query text ∈ (w.run limits sql options).calls ∧
      w.database.query text = .error e := by
  obtain ⟨c, hc, hfail⟩ := (endsWithCall_run w limits sql options).exists_call he
  rcases calls_run limits hread (w := w) options with h | ⟨text, h⟩
  · rw [h, List.mem_singleton] at hc
    rw [hc] at hfail
    cases hfail
  · rw [h]
    rw [h, List.mem_cons, List.mem_singleton] at hc
    rcases hc with rfl | rfl
    · cases hfail
    · exact ⟨text, by simp, failure?_eq_some_iff.1 hfail⟩

lemma answer_fits {d : Draft} (hread : Validation.read d.sql = none) {schema : Option Schema}
    (hdb : AnswerAlike w.database w'.database) {request : String} {execute : Bool}
    {options : RunOptions} {a : AskOutcome}
    (ha : (w'.askWith limits d request execute options).outcome = .ok a) (metrics : Metrics) :
    AnswerFits ⟨d.sql, planOf limits w.database d.sql schema,
      Policy.judge d.sql (planOf limits w.database d.sql schema) true, metrics⟩ a := by
  have hplan := planOf_congr limits hdb d.sql schema (some d.schema)
  obtain ⟨run, rfl⟩ : ∃ run, a = answerWith limits w' d request run := by
    cases execute with
    | false =>
      rw [outcome_askWith_false] at ha
      exact ⟨none, (Except.ok.inj ha).symm⟩
    | true =>
      rw [askWith_true limits hread] at ha
      cases hout : (w'.carryOut limits d.sql options
        (planOf limits w'.database d.sql (some d.schema)) (askMetrics w' d)).outcome with
      | error e => simp [hout, Except.map] at ha
      | ok o =>
        rw [hout] at ha
        exact ⟨some o, (Except.ok.inj ha).symm⟩
  refine ⟨rfl, hplan.symm, ?_⟩
  dsimp only [answerWith]
  rw [judge_congr hplan]

/-- The draft of a request is run as the run of its text would be. -/
lemma run_of_ask {d : Draft} (hread : Validation.read d.sql = none)
    (hdb : AnswerAlike w.database w'.database) (request : String) (options : RunOptions) :
    (w'.askWith limits d request true options).calls = (w.run limits d.sql options).calls ∧
      (w'.askWith limits d request true options).outcome.map (fun a => a.run.map timeless) =
        (w.run limits d.sql options).outcome.map fun o => some (timeless o) := by
  obtain ⟨m, hrun⟩ := run_eq limits hread w options
  obtain ⟨hcalls, hout⟩ := carryOut_congr limits hdb
    (planOf_congr limits hdb d.sql none (some d.schema)) d.sql options m (askMetrics w' d)
  have hshown : ∀ x : Except Failure RunOutcome,
      (x.map fun run => answerWith limits w' d request (some run)).map
        (fun a => a.run.map timeless) = (x.map timeless).map some := by
    intro x
    cases x <;> rfl
  have hsome : ∀ x : Except Failure RunOutcome,
      x.map (fun o => some (timeless o)) = (x.map timeless).map some := by
    intro x
    cases x <;> rfl
  rw [askWith_true limits hread, hrun, hcalls, hdb.dialect]
  refine ⟨rfl, ?_⟩
  rw [hshown, hsome, hout]

/-- **Planning, running and asking agree.** Take a read that is accepted, and three databases that
answer alike whatever their schemas. But for the join paths, one plan is made in all three ways, and
one decision is made on it. A request that is drafted as the statement and carried out comes to what
a run of the statement comes to, and sends the same texts: one request for a plan and no more than
one query. Both fail only with the failure of that query. What is executed in full and under the
policy is the recommended text. -/
theorem plan_run_ask_agree {wPlan wRun wAsk : World}
    (hrun : AnswerAlike wPlan.database wRun.database)
    (hask : AnswerAlike wPlan.database wAsk.database) {request : String} {store : Draft.Store}
    {d : Draft} (hdraft : (wAsk.draft request store).1.outcome = .ok d)
    (hread : Validation.read d.sql = none) (options : RunOptions) :
    ∃ p, (wPlan.plan limits d.sql).outcome = .ok p ∧
      (∀ q, (Plan.build wRun.database d.sql limits.safe none).outcome = .ok q →
        pathless q = pathless p.plan) ∧
      (∀ o, (wRun.run limits d.sql options).outcome = .ok o → RunFits p o) ∧
      (∀ execute a, (wAsk.ask limits request execute options store).1.outcome = .ok a →
        AnswerFits p a) ∧
      (∃ a, (wAsk.ask limits request false options store).1.outcome = .ok a ∧ a.run = none) ∧
      (wAsk.ask limits request true options store).1.outcome.map (fun a => a.run.map timeless) =
        (wRun.run limits d.sql options).outcome.map (fun o => some (timeless o)) ∧
      (wAsk.ask limits request true options store).1.calls.filter runsText =
        (wRun.run limits d.sql options).calls ∧
      ((wRun.run limits d.sql options).calls =
          [.explain (wRun.database.dialect.explainSql d.sql)] ∨
        ∃ text, (wRun.run limits d.sql options).calls =
          [.explain (wRun.database.dialect.explainSql d.sql), .query text]) ∧
      (∀ e, (wRun.run limits d.sql options).outcome = .error e →
        ∃ text, Call.query text ∈ (wRun.run limits d.sql options).calls ∧
          wRun.database.query text = .error e) ∧
      ∀ text, executedText (wRun.run limits d.sql ⟨.execute, true⟩) = some text →
        text = p.recommended := by
  have hrunAsk : AnswerAlike wRun.database wAsk.database := hrun.symm.trans hask
  obtain ⟨metrics, hplan⟩ := outcome_plan limits wPlan d.sql
  obtain ⟨hcalls, hout⟩ := run_of_ask limits hread hrunAsk request options
  refine ⟨_, hplan, ?built, ?run, ?answers, ?drafted, ?outcome, ?calls,
    calls_run limits hread options, fun e => query_of_error limits hread options, ?text⟩
  case built =>
    intro q hq
    have hq' : planOf limits wRun.database d.sql none = q := Except.ok.inj hq
    rw [← hq']
    exact (planOf_congr limits hrun _ _ _).symm
  case run =>
    intro o ho
    exact run_fits limits hread hrun ho metrics
  case answers =>
    intro execute a ha
    rw [outcome_ask limits hdraft] at ha
    exact answer_fits limits hread hask ha metrics
  case drafted =>
    exact ⟨_, outcome_ask limits hdraft false options, rfl⟩
  case outcome =>
    rw [outcome_ask limits hdraft, hout]
  case calls =>
    rw [filter_ask limits hdraft, hcalls]
    rcases calls_run (w := wRun) limits hread options with h | ⟨text, h⟩
    · rw [h]
      rfl
    · rw [h]
      rfl
  case text =>
    intro text h
    exact text_of_safe limits hrun h

/-- A database without rows, of some schema, and a drafter that always drafts one read. -/
def fixed (schema : Except Failure Schema) : World where
  database :=
    { dialect := .sqlite
      explain := fun _ => .ok .empty
      query := fun _ => .ok .empty
      write := fun _ => .ok 0
      schema }
  drafter := some fun _ _ => .ok "SELECT * FROM users"
  searchedAt := 0
  storedAt := 0
  elapsed := fun _ => 0.0

lemma answerAlike_fixed (schema schema' : Except Failure Schema) :
    AnswerAlike (fixed schema).database (fixed schema').database :=
  ⟨rfl, fun _ => rfl, fun _ => rfl⟩

/-- A plan made where the schema cannot be read, and a request answered where it can be. -/
theorem agree_without_schema :
    Validation.read "SELECT * FROM users" = none ∧
      ((fixed (.ok .empty)).draft "all users" .nowhere).1.outcome =
        .ok ⟨"SELECT * FROM users", .empty, 0.0, 0.0, false⟩ ∧
      ((fixed (.ok .empty)).ask {} "all users" true {} .nowhere).1.calls.filter runsText =
        [.explain "EXPLAIN QUERY PLAN SELECT * FROM users",
          .query "SELECT * FROM users LIMIT 1000"] ∧
      ∃ p, ((fixed (.error .noDrafter)).plan {} "SELECT * FROM users").outcome = .ok p ∧
        p.recommended = "SELECT * FROM users LIMIT 1000" := by
  have hread : Validation.read "SELECT * FROM users" = none := by decide +kernel
  have hdraft : ((fixed (.ok .empty)).draft "all users" .nowhere).1.outcome =
      .ok ⟨"SELECT * FROM users", .empty, 0.0, 0.0, false⟩ := rfl
  have hcalls : ((fixed (.error .noDrafter)).run {} "SELECT * FROM users" {}).calls =
      [.explain "EXPLAIN QUERY PLAN SELECT * FROM users",
        .query "SELECT * FROM users LIMIT 1000"] := by
    decide +kernel
  have htext : executedText ((fixed (.error .noDrafter)).run {} "SELECT * FROM users" {}) =
      some "SELECT * FROM users LIMIT 1000" := by
    decide +kernel
  obtain ⟨p, hplan, -, -, -, -, -, hasked, -, -, hrecommended⟩ :=
    plan_run_ask_agree {} (answerAlike_fixed (.error .noDrafter) (.error .noDrafter))
      (answerAlike_fixed (.error .noDrafter) (.ok .empty)) hdraft hread {}
  exact ⟨hread, hdraft, hasked.trans hcalls, p, hplan, (hrecommended _ htext).symm⟩

end QueryGuard.Proofs.PlanAgreement
