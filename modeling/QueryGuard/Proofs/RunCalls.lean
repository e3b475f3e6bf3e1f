import QueryGuard.Gate.Workflow
import QueryGuard.Proofs.BlockedWords
import QueryGuard.Proofs.BoundedPlan

/-!
What a run sends, call by call.

A refused text sends nothing. Any other is planned with one request for a plan; then it is held
back, by the policy or by the mode of the run, or one query is sent. The text of that query is the
statement with its bound appended once, twice or not at all, so whatever appending a bound keeps,
the query keeps: it is a single statement, and a read.
-/

namespace QueryGuard.Proofs.RunCalls

open Terminator AppendedBound BlockedWords BoundedPlan

/-- Nothing is sent after planning: the policy is enforced and denies, or only the plan is
wanted. -/
def HeldBack (sql : String) (options : RunOptions) (plan : Plan) : Prop :=
  (options.safe = true ∧ (Policy.judge sql plan true).allowed = false) ∨ options.mode = .explain

/-- What holds of the text of a query that a run sends. -/
structure Sendable (sql : String) (options : RunOptions) (plan : Plan) (text : String) : Prop where
  single : OneStatement text
  read : (Statement.ofSql text).isRead = true
  allowed : options.safe = true → (Policy.judge sql plan true).allowed = true
  bounded : options.safe = true → RowBound.hasLimit text = true

variable (w : World) (limits : Limits) {sql : String} {options : RunOptions} {plan : Plan}

/-! ### The text -/

/-- What appending a bound keeps holds of the text that is sent. -/
lemma executedSql_of_bound {P : String → Prop}
    (hbound : ∀ {text : String}, P text → ∀ rows, P (RowBound.bound text rows).1)
    (hplan : plan.safeSql = (RowBound.bound sql limits.safe).1) (h : P sql) :
    P (World.executedSql limits sql plan options) := by
  have hchosen : P (if options.safe then plan.safeSql else sql) := by
    split
    · rw [hplan]
      exact hbound h limits.safe
    · exact h
  unfold World.executedSql
  cases options.mode with
  | preview => exact hbound hchosen limits.preview
  | execute => exact hchosen
  | explain => exact hchosen

lemma hasLimit_executedSql (hplan : plan.safeSql = (RowBound.bound sql limits.safe).1)
    (hsafe : options.safe = true) :
    RowBound.hasLimit (World.executedSql limits sql plan options) = true := by
  unfold World.executedSql
  rw [if_pos hsafe, hplan]
  cases options.mode with
  | preview => exact hasLimit_bound _ limits.preview
  | execute => exact hasLimit_bound sql limits.safe
  | explain => exact hasLimit_bound sql limits.safe

/-! ### The calls -/

lemma carryOut_of_heldBack (h : HeldBack sql options plan) (metrics : Metrics) :
    (w.carryOut limits sql options plan metrics).calls = [] ∧
      ((w.carryOut limits sql options plan metrics).outcome =
          .ok (.blocked plan (Policy.judge sql plan true)) ∨
        (w.carryOut limits sql options plan metrics).outcome =
          .ok (.explained plan (Policy.judge sql plan true) metrics)) := by
  unfold World.carryOut
  by_cases hb : (options.safe && !(Policy.judge sql plan true).allowed) = true
  · simp only [hb, if_true]
    exact ⟨rfl, .inl rfl⟩
  · have hmode : options.mode = .explain := by
      rcases h with ⟨hsafe, hdenied⟩ | hmode
      · simp [hsafe, hdenied] at hb
      · exact hmode
    simp only [hb, hmode, if_true]
    exact ⟨rfl, .inr rfl⟩

lemma carryOut_of_not_heldBack (h : ¬HeldBack sql options plan) (metrics : Metrics) :
    (w.carryOut limits sql options plan metrics).calls =
        [.query (World.executedSql limits sql plan options)] ∧
      ∀ o, (w.carryOut limits sql options plan metrics).outcome = .ok o →
        ∃ result metrics', o = .executed (World.executedSql limits sql plan options) result plan
          (Policy.judge sql plan true) metrics' := by
  have hb : (options.safe && !(Policy.judge sql plan true).allowed) = false := by
    by_contra hb
    exact h (.inl (by simpa using hb))
  have hmode : ¬options.mode = .explain := fun hmode => h (.inr hmode)
  unfold World.carryOut
  simp only [hb, hmode, if_false, Bool.false_eq_true]
  cases hq : w.database.query (World.executedSql limits sql plan options) with
  | error e =>
    rw [Traced.bind_of_error (e := e) hq]
    exact ⟨rfl, fun o ho => nomatch ho⟩
  | ok result =>
    rw [Traced.bind_of_ok (a := result) hq]
    refine ⟨rfl, fun o ho => ?_⟩
    cases ho
    exact ⟨result, _, rfl⟩

lemma run_of_read (options : RunOptions) (h : Validation.read sql = none)
    (hplan : (Plan.build w.database sql limits.safe none).outcome = .ok plan) :
    ∃ metrics, w.run limits sql options =
      ⟨.explain (w.database.dialect.explainSql sql) ::
        (w.carryOut limits sql options plan metrics).calls,
        (w.carryOut limits sql options plan metrics).outcome⟩ := by
  refine ⟨{ planMs := some (w.elapsed .plan) }, ?_⟩
  unfold World.run
  rw [h]
  dsimp only
  rw [Traced.bind_of_ok hplan, Plan.calls_build]
  rfl

/-- What a run does not hold back is allowed where the policy is enforced. -/
lemma allowed_of_not_heldBack (h : ¬HeldBack sql options plan) (hsafe : options.safe = true) :
    (Policy.judge sql plan true).allowed = true := by
  by_contra hd
  exact h (.inl ⟨hsafe, by simpa using hd⟩)

/-! ### What was executed -/

/-- The text that was executed, if the work came to that. -/
def executedText (x : Traced RunOutcome) : Option String :=
  match x.outcome with
  | .ok (.executed text _ _ _ _) => some text
  | _ => none

/-- A text that is sent, or executed, is that of a plan that was not held back. -/
lemma exists_of_sent {text : String}
    (h : Call.query text ∈ (w.run limits sql options).calls ∨
      executedText (w.run limits sql options) = some text) :
    ∃ plan, (Plan.build w.database sql limits.safe none).outcome = .ok plan ∧
      ¬HeldBack sql options plan ∧ text = World.executedSql limits sql plan options := by
  cases hread : Validation.read sql with
  | some refusal =>
    have hrun : w.run limits sql options = .ok (.rejected refusal) := by
      unfold World.run
      rw [hread]
    rw [hrun] at h
    rcases h with h | h
    · exact absurd h List.not_mem_nil
    · cases h
  | none =>
    obtain ⟨plan, hplan, -, -⟩ := exists_build w.database sql limits.safe none
    obtain ⟨metrics, hrun⟩ := run_of_read w limits options hread hplan
    rw [hrun] at h
    refine ⟨plan, hplan, ?_⟩
    by_cases hheld : HeldBack sql options plan
    · obtain ⟨hcalls, hout⟩ := carryOut_of_heldBack w limits hheld metrics
      rcases h with h | h
      · simp [hcalls] at h
      · rcases hout with hout | hout <;> simp [executedText, hout] at h
    · obtain ⟨hcalls, hout⟩ := carryOut_of_not_heldBack w limits hheld metrics
      refine ⟨hheld, ?_⟩
      rcases h with h | h
      · simpa [hcalls] using h
      · unfold executedText at h
        split at h
        · rename_i ho
          obtain ⟨result, metrics', ho'⟩ := hout _ ho
          cases ho'
          exact (Option.some.inj h).symm
        · cases h

variable (sql options)

/-- **What a run sends.** Nothing, if the text is refused. Otherwise one request for a plan,
without a semicolon; and unless the run is then held back one query, which is a single statement
and a read, and with the policy enforced also allowed and bounded. -/
theorem run_sends :
    (∃ refusal, Validation.read sql = some refusal ∧
      (w.run limits sql options).calls = [] ∧
      (w.run limits sql options).outcome = .ok (.rejected refusal)) ∨
    (Validation.read sql = none ∧
      ';' ∉ (w.database.dialect.explainSql sql).toList ∧
      ∃ plan, (Plan.build w.database sql limits.safe none).outcome = .ok plan ∧
        ((HeldBack sql options plan ∧
          (w.run limits sql options).calls =
            [.explain (w.database.dialect.explainSql sql)] ∧
          ((w.run limits sql options).outcome =
              .ok (.blocked plan (Policy.judge sql plan true)) ∨
            ∃ metrics, (w.run limits sql options).outcome =
              .ok (.explained plan (Policy.judge sql plan true) metrics))) ∨
        (¬HeldBack sql options plan ∧ ∃ text,
          (w.run limits sql options).calls =
            [.explain (w.database.dialect.explainSql sql), .query text] ∧
          Sendable sql options plan text ∧
          ∀ o, (w.run limits sql options).outcome = .ok o → ∃ result metrics,
            o = .executed text result plan (Policy.judge sql plan true) metrics))) := by
  cases hread : Validation.read sql with
  | some refusal =>
    refine .inl ⟨refusal, rfl, ?_⟩
    unfold World.run
    rw [hread]
    exact ⟨rfl, rfl⟩
  | none =>
    obtain ⟨hhead, hone, -⟩ := (read_eq_none_iff sql).1 hread
    obtain ⟨plan, hplan, hsafe, -⟩ := exists_build w.database sql limits.safe none
    obtain ⟨metrics, hrun⟩ := run_of_read w limits options hread hplan
    refine .inr ⟨rfl, semicolon_not_mem_explainSql hone _, plan, hplan, ?_⟩
    rw [hrun]
    by_cases hheld : HeldBack sql options plan
    · obtain ⟨hcalls, hout⟩ := carryOut_of_heldBack w limits hheld metrics
      rw [hcalls]
      refine .inl ⟨hheld, rfl, ?_⟩
      rcases hout with hout | hout
      · exact .inl hout
      · exact .inr ⟨metrics, hout⟩
    · obtain ⟨hcalls, hout⟩ := carryOut_of_not_heldBack w limits hheld metrics
      rw [hcalls]
      refine .inr ⟨hheld, _, rfl, ?_, hout⟩
      exact
        { single := executedSql_of_bound limits oneStatement_bound hsafe hone
          read := executedSql_of_bound limits
            (P := fun text => (Statement.ofSql text).isRead = true) isRead_bound hsafe hhead
          allowed := allowed_of_not_heldBack hheld
          bounded := hasLimit_executedSql limits hsafe }

end QueryGuard.Proofs.RunCalls
