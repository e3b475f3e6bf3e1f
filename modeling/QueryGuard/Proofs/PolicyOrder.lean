import Mathlib.Tactic.SplitIfs
import QueryGuard.Policy

/-!
The rules in their order.

Each rule answers under a condition of its own and with a policy that no other rule gives. The
first rule that answers decides, so the policy of a decision is read off the conditions in the
order of the rules.
-/

namespace QueryGuard.Proofs.PolicyOrder

open Policy

variable (s : Statement) (p : Plan) (readOnly : Bool)

/-! ### When a rule is silent -/

lemma barWrites_eq_none_iff :
    barWrites s p readOnly = none ↔ (readOnly && !s.isRead) = false := by
  unfold barWrites
  split <;> simp_all

lemma oneStatement_eq_none_iff :
    oneStatement s p readOnly = none ↔ s.hasInnerSemicolon = false := by
  unfold oneStatement
  split <;> simp_all

lemma fewJoins_eq_none_iff :
    fewJoins s p readOnly = none ↔ s.countWord "join" < tooManyJoins := by
  unfold fewJoins
  by_cases h : s.countWord "join" ≥ tooManyJoins
  · rw [if_pos h]
    refine ⟨fun h' => absurd h' (Option.some_ne_none _), fun h' => ?_⟩
    omega
  · rw [if_neg h]
    refine ⟨fun _ => ?_, fun _ => rfl⟩
    omega

lemma boundedRows_eq_none_iff :
    boundedRows s p readOnly = none ↔ s.isUnbounded = false := by
  unfold boundedRows
  cases h : s.isUnbounded with
  | false => simp
  | true =>
    simp only [Bool.not_true, Bool.false_eq_true, if_false, reduceCtorEq, iff_false]
    split
    · exact Option.some_ne_none _
    · exact Option.some_ne_none _

/-- Two statements are told apart by their rows when one needs a bound and the other does not, or
when both do and the plan bounds one of them only. -/
lemma boundedRows_eq_iff (s s' : Statement) :
    boundedRows s p readOnly = boundedRows s' p readOnly ↔
      s.isUnbounded = s'.isUnbounded ∧
        (s'.isUnbounded = true → hasBoundedPlan s p = hasBoundedPlan s' p) := by
  unfold boundedRows
  cases s.isUnbounded <;> cases s'.isUnbounded <;> cases hasBoundedPlan s p <;>
    cases hasBoundedPlan s' p <;> simp [Decision.deny]

/-- The rules that look at the statement alone are silent. -/
structure Admitted : Prop where
  read : readOnly = true → s.isRead = true
  single : s.hasInnerSemicolon = false
  joins : s.countWord "join" < tooManyJoins

lemma admitted_iff :
    Admitted s readOnly ↔
      barWrites s p readOnly = none ∧ oneStatement s p readOnly = none ∧
        fewJoins s p readOnly = none := by
  rw [barWrites_eq_none_iff, oneStatement_eq_none_iff, fewJoins_eq_none_iff]
  constructor
  · rintro ⟨h1, h2, h3⟩
    refine ⟨?_, h2, h3⟩
    cases readOnly with
    | false => rfl
    | true => simp [h1 rfl]
  · rintro ⟨h1, h2, h3⟩
    refine ⟨?_, h2, h3⟩
    rintro rfl
    simpa using h1

/-! ### The first answer -/

/-- **The policy of a decision**, by the conditions of the rules in their order. -/
theorem policy_judge (sql : String) :
    (judge sql p readOnly).policy =
      if readOnly && !(Statement.ofSql sql).isRead then .readOnly
      else if (Statement.ofSql sql).hasInnerSemicolon then .singleStatement
      else if (Statement.ofSql sql).countWord "join" ≥ tooManyJoins then .joinComplexity
      else if (Statement.ofSql sql).isUnbounded then
        if hasBoundedPlan (.ofSql sql) p then .safeLimitApplied else .unboundedRead
      else if p.riskScore ≥ riskLimit then .riskThreshold
      else .allow := by
  unfold judge rules
  generalize Statement.ofSql sql = s
  simp only [List.findSome?_cons, List.findSome?_nil, barWrites, oneStatement, fewJoins,
    boundedRows, lowRisk]
  by_cases h1 : (readOnly && !s.isRead) = true
  · simp [h1, Decision.deny]
  by_cases h2 : s.hasInnerSemicolon = true
  · simp [h1, h2, Decision.deny]
  by_cases h3 : s.countWord "join" ≥ tooManyJoins
  · simp [h1, h2, h3, Decision.deny]
  by_cases h4 : s.isUnbounded = true
  · by_cases h5 : hasBoundedPlan s p = true
    · simp [h1, h2, h3, h4, h5, Decision.deny]
    · simp [h1, h2, h3, h4, h5, Decision.deny]
  by_cases h6 : p.riskScore ≥ riskLimit
  · simp [h1, h2, h3, h4, h6, Decision.deny]
  · simp [h1, h2, h3, h4, h6, Decision.allow]

variable {p readOnly} {sql : String}

/-- What is left once the rules about the statement are silent. -/
lemma policy_judge_of_admitted (h : Admitted (.ofSql sql) readOnly) :
    (judge sql p readOnly).policy =
      if (Statement.ofSql sql).isUnbounded then
        if hasBoundedPlan (.ofSql sql) p then .safeLimitApplied else .unboundedRead
      else if p.riskScore ≥ riskLimit then .riskThreshold
      else .allow := by
  obtain ⟨h1, h2, h3⟩ := (admitted_iff _ p _).1 h
  rw [barWrites_eq_none_iff] at h1
  rw [oneStatement_eq_none_iff] at h2
  rw [fewJoins_eq_none_iff] at h3
  rw [policy_judge, if_neg (by simp [h1]), if_neg (by simp [h2]), if_neg (by omega)]

/-- A policy that is none of the rules about the statement comes after they were silent. -/
lemma policy_judge_eq_iff {policy : Policy} (hread : policy ≠ .readOnly)
    (hsingle : policy ≠ .singleStatement) (hjoins : policy ≠ .joinComplexity) :
    (judge sql p readOnly).policy = policy ↔ Admitted (.ofSql sql) readOnly ∧
      (if (Statement.ofSql sql).isUnbounded then
        if hasBoundedPlan (.ofSql sql) p then .safeLimitApplied else .unboundedRead
      else if p.riskScore ≥ riskLimit then .riskThreshold
      else .allow) = policy := by
  by_cases ha : Admitted (.ofSql sql) readOnly
  · rw [policy_judge_of_admitted ha, and_iff_right ha]
  · refine iff_of_false (fun h => ?_) fun h => ha h.1
    rw [admitted_iff _ p, barWrites_eq_none_iff, oneStatement_eq_none_iff,
      fewJoins_eq_none_iff] at ha
    rw [policy_judge] at h
    by_cases h1 : (readOnly && !(Statement.ofSql sql).isRead) = true
    · rw [if_pos h1] at h
      exact hread h.symm
    by_cases h2 : (Statement.ofSql sql).hasInnerSemicolon = true
    · rw [if_neg h1, if_pos h2] at h
      exact hsingle h.symm
    by_cases h3 : (Statement.ofSql sql).countWord "join" ≥ tooManyJoins
    · rw [if_neg h1, if_neg h2, if_pos h3] at h
      exact hjoins h.symm
    exact ha ⟨Bool.eq_false_iff.2 h1, Bool.eq_false_iff.2 h2, by omega⟩

/-- The bound of the plan decides when a statement needs one and the rules before were silent. -/
lemma policy_judge_eq_safeLimitApplied_iff :
    (judge sql p readOnly).policy = .safeLimitApplied ↔
      barWrites (.ofSql sql) p readOnly = none ∧ oneStatement (.ofSql sql) p readOnly = none ∧
        fewJoins (.ofSql sql) p readOnly = none ∧ (Statement.ofSql sql).isUnbounded = true ∧
          hasBoundedPlan (.ofSql sql) p = true := by
  rw [policy_judge_eq_iff (by decide) (by decide) (by decide), admitted_iff _ p, and_assoc,
    and_assoc]
  split_ifs <;> simp_all

/-- A statement is denied as unbounded only when its plan has no bound either. -/
lemma policy_judge_ne_unboundedRead
    (h : (Statement.ofSql sql).isUnbounded = true → hasBoundedPlan (.ofSql sql) p = true) :
    (judge sql p readOnly).policy ≠ .unboundedRead := by
  rw [policy_judge]
  intro hd
  split_ifs at hd with h1 h2 h3 h4 h5
  exact h5 (h h4)

/-- The score decides when the rules before were silent. -/
lemma policy_judge_eq_riskThreshold_iff :
    (judge sql p readOnly).policy = .riskThreshold ↔
      barWrites (.ofSql sql) p readOnly = none ∧ oneStatement (.ofSql sql) p readOnly = none ∧
        fewJoins (.ofSql sql) p readOnly = none ∧ boundedRows (.ofSql sql) p readOnly = none ∧
          p.riskScore ≥ riskLimit := by
  rw [policy_judge_eq_iff (by decide) (by decide) (by decide), admitted_iff _ p, and_assoc,
    and_assoc, boundedRows_eq_none_iff]
  split_ifs <;> simp_all

lemma policy_judge_eq_allow_iff :
    (judge sql p readOnly).policy = .allow ↔
      barWrites (.ofSql sql) p readOnly = none ∧ oneStatement (.ofSql sql) p readOnly = none ∧
        fewJoins (.ofSql sql) p readOnly = none ∧ boundedRows (.ofSql sql) p readOnly = none ∧
          ¬p.riskScore ≥ riskLimit := by
  rw [policy_judge_eq_iff (by decide) (by decide) (by decide), admitted_iff _ p, and_assoc,
    and_assoc, boundedRows_eq_none_iff]
  split_ifs <;> simp_all

/-- Where the rules about the statement answer alike, the judgements are the same exactly when the
rule about its rows answers alike too, or is not asked. The last rule asks the plan only. -/
lemma judge_eq_judge_iff {sql' : String}
    (hwrites : barWrites (.ofSql sql) p readOnly = barWrites (.ofSql sql') p readOnly)
    (hone : oneStatement (.ofSql sql) p readOnly = oneStatement (.ofSql sql') p readOnly)
    (hjoins : fewJoins (.ofSql sql) p readOnly = fewJoins (.ofSql sql') p readOnly) :
    judge sql p readOnly = judge sql' p readOnly ↔
      (Admitted (.ofSql sql) readOnly →
        boundedRows (.ofSql sql) p readOnly = boundedRows (.ofSql sql') p readOnly) := by
  constructor
  · intro he ha
    have ha' : Admitted (.ofSql sql') readOnly := by
      rwa [admitted_iff _ p, ← hwrites, ← hone, ← hjoins, ← admitted_iff]
    have hpolicy := congrArg Decision.policy he
    rw [policy_judge_of_admitted ha, policy_judge_of_admitted ha'] at hpolicy
    rw [boundedRows_eq_iff]
    cases hs : (Statement.ofSql sql).isUnbounded <;>
      cases hs' : (Statement.ofSql sql').isUnbounded <;>
      simp only [hs, hs', Bool.false_eq_true, if_true, if_false] at hpolicy
    · exact ⟨rfl, fun h => nomatch h⟩
    · split_ifs at hpolicy
    · split_ifs at hpolicy
    · refine ⟨rfl, fun _ => ?_⟩
      split_ifs at hpolicy with hb hb' hb'
      · rw [hb, hb']
      · rw [Bool.eq_false_iff.2 hb, Bool.eq_false_iff.2 hb']
  · intro hrows
    have hlow : lowRisk (.ofSql sql) p readOnly = lowRisk (.ofSql sql') p readOnly := rfl
    unfold judge rules
    simp only [List.findSome?_cons, List.findSome?_nil, ← hwrites, ← hone, ← hjoins, ← hlow]
    by_cases ha : Admitted (.ofSql sql) readOnly
    · rw [hrows ha]
    · rw [admitted_iff _ p] at ha
      cases h1 : barWrites (.ofSql sql) p readOnly with
      | some d => rfl
      | none =>
        cases h2 : oneStatement (.ofSql sql) p readOnly with
        | some d => rfl
        | none =>
          cases h3 : fewJoins (.ofSql sql) p readOnly with
          | some d => rfl
          | none => exact absurd ⟨h1, h2, h3⟩ ha

/-! ### What an answer permits -/

/-- What a rule answers: it never says that all is well, and it allows only what the bound of the
plan lets pass. -/
def IsAnswer (d : Decision) : Prop :=
  d.policy ≠ .allow ∧ (d.allowed = true ↔ d.policy = .safeLimitApplied)

lemma isAnswer_deny {c : Prop} [Decidable c] {policy : Policy} {reason fix : String} {d : Decision}
    (hallow : policy ≠ .allow) (hsafe : policy ≠ .safeLimitApplied)
    (h : (if c then some (Decision.deny policy reason fix) else none) = some d) : IsAnswer d := by
  split at h
  · obtain rfl := Option.some.inj h
    exact ⟨hallow, by simp [Decision.deny, hsafe]⟩
  · cases h

lemma isAnswer_boundedRows {s : Statement} {p : Plan} {readOnly : Bool} {d : Decision}
    (h : boundedRows s p readOnly = some d) : IsAnswer d := by
  unfold boundedRows at h
  split at h
  · cases h
  · dsimp only at h
    split at h
    · obtain rfl := Option.some.inj h
      simp [IsAnswer]
    · obtain rfl := Option.some.inj h
      simp [IsAnswer, Decision.deny]

lemma isAnswer_of_rule {rule : Rule} (hrule : rule ∈ rules) {s : Statement} {p : Plan}
    {readOnly : Bool} {d : Decision} (h : rule s p readOnly = some d) : IsAnswer d := by
  simp only [rules, List.mem_cons, List.not_mem_nil, or_false] at hrule
  rcases hrule with rfl | rfl | rfl | rfl | rfl
  · exact isAnswer_deny (by decide) (by decide) h
  · exact isAnswer_deny (by decide) (by decide) h
  · exact isAnswer_deny (by decide) (by decide) h
  · exact isAnswer_boundedRows h
  · exact isAnswer_deny (by decide) (by decide) h

/-- A decision is the answer of a rule, or no rule had one. -/
lemma judge_cases (sql : String) (p : Plan) (readOnly : Bool) :
    judge sql p readOnly = .allow ∨
      ∃ rule ∈ rules, rule (.ofSql sql) p readOnly = some (judge sql p readOnly) := by
  unfold judge
  cases h : rules.findSome? fun rule => rule (.ofSql sql) p readOnly with
  | none => exact .inl rfl
  | some d => exact .inr (List.exists_of_findSome?_eq_some h)

/-- Its policy tells whether a decision allows. -/
lemma allowed_judge_iff :
    (judge sql p readOnly).allowed = true ↔
      (judge sql p readOnly).policy = .safeLimitApplied ∨
        (judge sql p readOnly).policy = .allow := by
  rcases judge_cases sql p readOnly with h | ⟨rule, hrule, h⟩
  · simp [h, Decision.allow]
  · obtain ⟨hne, hiff⟩ := isAnswer_of_rule hrule h
    rw [hiff, or_iff_left hne]

/-- What is allowed: the rules before are silent, and the statement is bounded by its plan, or by
itself and the risk is low. -/
lemma allowed_judge_iff_admitted :
    (judge sql p readOnly).allowed = true ↔
      Admitted (.ofSql sql) readOnly ∧
        (((Statement.ofSql sql).isUnbounded = true ∧ hasBoundedPlan (.ofSql sql) p = true) ∨
          ((Statement.ofSql sql).isUnbounded = false ∧ ¬p.riskScore ≥ riskLimit)) := by
  rw [allowed_judge_iff, policy_judge_eq_safeLimitApplied_iff, policy_judge_eq_allow_iff,
    boundedRows_eq_none_iff, admitted_iff _ p, and_or_left, and_assoc, and_assoc, and_assoc,
    and_assoc]

lemma judge_eq_allow_iff :
    judge sql p readOnly = .allow ↔ (judge sql p readOnly).policy = .allow := by
  rcases judge_cases sql p readOnly with h | ⟨rule, hrule, h⟩
  · simp [h, Decision.allow]
  · have hne := (isAnswer_of_rule hrule h).1
    refine ⟨fun hd => ?_, fun hd => absurd hd hne⟩
    rw [hd]
    rfl

end QueryGuard.Proofs.PolicyOrder
