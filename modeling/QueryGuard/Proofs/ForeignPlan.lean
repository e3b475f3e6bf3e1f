import QueryGuard.Proofs.BoundedPlan

/-!
Plans that were made elsewhere.

Such a plan does not say that it added a bound, and its bounded text counts as one when it is not
the statement itself. This misses no bound: a text that has one differs from a statement that has
none. But it takes more than bounds for one, since a text may differ from the statement in any
other way.
-/

namespace QueryGuard.Proofs.ForeignPlan

open Policy Text TextRuns LowerImage StatementWords PolicyOrder BoundedPlan

variable {sql : String} {p : Plan} {readOnly : Bool}

/-! ### The two texts of a plan -/

/-- A plan without a mark has a bound when its text is some other text. -/
lemma hasBoundedPlan_iff (h : p.limitInjected = false) (s : Statement) :
    hasBoundedPlan s p = true ↔ words p.safeSql.toList ≠ [] ∧ Statement.ofSql p.safeSql ≠ s := by
  unfold hasBoundedPlan
  rw [h, Bool.false_or, Bool.and_eq_true, bne_iff_ne, Bool.not_eq_true', ← Bool.not_eq_true,
    isEmpty_ofSql_iff]

lemma words_ne_nil_of_hasLimit {safe : String} (h : RowBound.hasLimit safe = true) :
    words safe.toList ≠ [] := by
  intro hw
  obtain ⟨r, hr, -⟩ := (hasLimit_iff safe).1 h
  rw [← runs_collapse isWordEnd_of_isBlank, collapse, hw] at hr
  simp at hr

/-- A text with a bound is some other text than a statement without. -/
lemma ofSql_ne_of_hasLimit {safe : String} (h : RowBound.hasLimit safe = true)
    (hsql : (Statement.ofSql sql).isUnbounded = true) :
    Statement.ofSql safe ≠ Statement.ofSql sql := by
  intro he
  have hno := ((isUnbounded_ofSql_iff sql).1 hsql).2
  rw [← hasLimit_ofSql, he, hasLimit_ofSql, hno] at h
  cases h

/-! ### What such a plan lets through -/

lemma policy_eq_safeLimitApplied_iff (h : p.limitInjected = false) :
    (judge sql p readOnly).policy = .safeLimitApplied ↔
      Admitted (.ofSql sql) readOnly ∧ (Statement.ofSql sql).isUnbounded = true ∧
        words p.safeSql.toList ≠ [] ∧ Statement.ofSql p.safeSql ≠ .ofSql sql := by
  rw [policy_judge_eq_safeLimitApplied_iff, hasBoundedPlan_iff h, admitted_iff _ p, and_assoc,
    and_assoc]

/-- **Plans made elsewhere.** A plan without a mark lets an unbounded statement through exactly
when its bounded text is neither blank nor the statement up to blanks and letter case. Every text
with a bound is such a text. So what is let through is bounded exactly when, for a statement that
needs it, only a text with a bound is neither blank nor the statement. -/
theorem unmarked_plan_iff (h : p.limitInjected = false) :
    ((judge sql p readOnly).policy = .safeLimitApplied ↔
      Admitted (.ofSql sql) readOnly ∧ (Statement.ofSql sql).isUnbounded = true ∧
        words p.safeSql.toList ≠ [] ∧ Statement.ofSql p.safeSql ≠ .ofSql sql) ∧
    (RowBound.hasLimit p.safeSql = true →
      ((judge sql p readOnly).policy = .safeLimitApplied ↔
        Admitted (.ofSql sql) readOnly ∧ (Statement.ofSql sql).isUnbounded = true)) ∧
    (((judge sql p readOnly).policy = .safeLimitApplied → RowBound.hasLimit p.safeSql = true) ↔
      (Admitted (.ofSql sql) readOnly → (Statement.ofSql sql).isUnbounded = true →
        words p.safeSql.toList = [] ∨ Statement.ofSql p.safeSql = .ofSql sql ∨
          RowBound.hasLimit p.safeSql = true)) := by
  rw [policy_eq_safeLimitApplied_iff h]
  refine ⟨Iff.rfl, fun hl => ⟨?_, ?_⟩, fun hb ha hu => ?_, fun hb => ?_⟩
  · rintro ⟨ha, hu, -⟩
    exact ⟨ha, hu⟩
  · rintro ⟨ha, hu⟩
    exact ⟨ha, hu, words_ne_nil_of_hasLimit hl, ofSql_ne_of_hasLimit hl hu⟩
  · by_cases hw : words p.safeSql.toList = []
    · exact .inl hw
    · by_cases he : Statement.ofSql p.safeSql = .ofSql sql
      · exact .inr (.inl he)
      · exact .inr (.inr (hb ⟨ha, hu, hw, he⟩))
  · rintro ⟨ha, hu, hw, he⟩
    exact ((hb ha hu).resolve_left hw).resolve_left he

/-- A plan whose bounded text is that of planning lets through what the rules before leave to it,
also when its mark was lost. -/
theorem unmarked_plan_iff_twelve :
    let p := { Plan.blank with safeSql := "SELECT * FROM users LIMIT 12" }
    p.limitInjected = false ∧
    ((judge "SELECT * FROM users" p true).policy = .safeLimitApplied ∧
      RowBound.hasLimit p.safeSql = true) := by
  refine ⟨rfl, ?_, by decide +kernel⟩
  have ha : Admitted (.ofSql "SELECT * FROM users") true :=
    ⟨by decide +kernel, by decide +kernel, by decide +kernel⟩
  exact ((unmarked_plan_iff rfl).2.1 (by decide +kernel)).2 ⟨ha, by decide +kernel⟩

/-- A semicolon, other columns or another table: none of these is a bound. -/
theorem other_text_taken_for_bound :
    let plan (safe : String) := { Plan.blank with safeSql := safe }
    let answer (safe : String) := judge "select * from users" (plan safe) true
    ((plan "select * from users;").limitInjected = false ∧
      answer "select * from users;" =
        ⟨true, .safeLimitApplied, "NO_WHERE_OR_LIMIT", "Add WHERE filters or a LIMIT clause."⟩ ∧
      RowBound.hasLimit "select * from users;" = false) ∧
    ((answer "select id from users").policy = .safeLimitApplied ∧
      RowBound.hasLimit "select id from users" = false) ∧
    (answer "select * from orders").policy = .safeLimitApplied ∧
      RowBound.hasLimit "select * from orders" = false := by
  decide +kernel

end QueryGuard.Proofs.ForeignPlan
