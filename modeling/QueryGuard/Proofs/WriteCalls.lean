import QueryGuard.Gate.Workflow
import QueryGuard.Proofs.BlockedWords
import QueryGuard.Proofs.PolicyOrder
import QueryGuard.Proofs.StandingWords

/-!
What a write sends.

A write is judged by the rules of reads and by the plan of nothing, which has no bound and no risk.
An accepted write is a single statement and no read, so of the rules three can still answer, and the
one about rows can only deny. What they leave is sent once, as it came.

The words that bound a write are looked for in the whole text. They are found wherever they stand
by themselves, also in a name, a literal or a comment.
-/

namespace QueryGuard.Proofs.WriteCalls

open Text TextRuns StatementWords StandingWords StatementHead Terminator BlockedWords PolicyOrder

/-- What lets a write through. -/
structure MayWrite (sql : String) (allowWrite : Bool) : Prop where
  accepted : Validation.write sql = none
  approved : allowWrite = true
  fewJoins : (Statement.ofSql sql).countWord "join" < 3
  bounded : (Statement.ofSql sql).hasWord "where" = true ∨ (Statement.ofSql sql).hasLimit = true

/-- The policy that holds an accepted write back. -/
def barrier (sql : String) (allowWrite : Bool) : Policy :=
  if allowWrite = false then .readOnly
  else if 3 ≤ (Statement.ofSql sql).countWord "join" then .joinComplexity
  else .unboundedRead

/-! ### The judgement -/

lemma head?_of_prefix {h s : List Char} (hne : h ≠ []) (hp : h <+: s) : s.head? = h.head? := by
  obtain ⟨r, rfl⟩ := hp
  exact List.head?_append_of_ne_nil _ hne

/-- A write begins with none of the letters that a read begins with. -/
lemma isRead_of_isWrite {s : Statement} (h : s.isWrite = true) : s.isRead = false := by
  have hletters : ∀ a ∈ ["insert", "update", "delete"], ∀ b ∈ ["select", "with"],
      a.toList ≠ [] ∧ b.toList ≠ [] ∧ a.toList.head? ≠ b.toList.head? := by
    decide
  unfold Statement.isWrite Statement.startsWithAny at h
  unfold Statement.isRead Statement.startsWithAny
  obtain ⟨a, ha, hap⟩ := List.any_eq_true.1 h
  rw [List.isPrefixOf_iff_prefix] at hap
  rw [List.any_eq_false]
  intro b hb hbp
  rw [List.isPrefixOf_iff_prefix] at hbp
  obtain ⟨hane, hbne, hne⟩ := hletters a ha b hb
  rw [← head?_of_prefix hane hap, ← head?_of_prefix hbne hbp] at hne
  exact hne rfl

lemma hasBoundedPlan_blank (s : Statement) : Policy.hasBoundedPlan s .blank = false := by
  have hempty : (Statement.ofSql "").isEmpty = true := by decide +kernel
  simp [Policy.hasBoundedPlan, Plan.blank, hempty]

lemma riskScore_blank : ¬Plan.blank.riskScore ≥ Policy.riskLimit := by
  decide

variable {sql : String}

/-- The rules that are left for an accepted write, in their order. -/
lemma policy_judge_blank (h : Validation.write sql = none) (allowWrite : Bool) :
    (Policy.judge sql .blank (!allowWrite)).policy =
      if allowWrite = false then .readOnly
      else if 3 ≤ (Statement.ofSql sql).countWord "join" then .joinComplexity
      else if (Statement.ofSql sql).isUnbounded then .unboundedRead
      else .allow := by
  obtain ⟨hwrite, hone, -⟩ := (write_eq_none_iff sql).1 h
  rw [policy_judge, isRead_of_isWrite hwrite, (oneStatement_iff sql).1 hone,
    hasBoundedPlan_blank, if_neg riskScore_blank]
  cases allowWrite <;> simp [Policy.tooManyJoins]

lemma isUnbounded_eq_false_iff (s : Statement) :
    s.isUnbounded = false ↔ s.hasWord "where" = true ∨ s.hasLimit = true := by
  unfold Statement.isUnbounded
  cases s.hasWord "where" <;> simp

lemma judge_of_mayWrite {allowWrite : Bool} (h : MayWrite sql allowWrite) :
    Policy.judge sql .blank (!allowWrite) = .allow := by
  rw [judge_eq_allow_iff, policy_judge_blank h.accepted, h.approved,
    (isUnbounded_eq_false_iff _).2 h.bounded]
  have := h.fewJoins
  rw [if_neg (by simp), if_neg (by omega), if_neg (by simp)]

lemma judge_of_not_mayWrite (haccepted : Validation.write sql = none) {allowWrite : Bool}
    (h : ¬MayWrite sql allowWrite) :
    (Policy.judge sql .blank (!allowWrite)).allowed = false ∧
      (Policy.judge sql .blank (!allowWrite)).policy = barrier sql allowWrite := by
  have hpolicy : (Policy.judge sql .blank (!allowWrite)).policy = barrier sql allowWrite := by
    rw [policy_judge_blank haccepted, barrier]
    split_ifs with happroved hjoins hbound
    · rfl
    · rfl
    · rfl
    · rw [Bool.not_eq_true, isUnbounded_eq_false_iff] at hbound
      exact absurd ⟨haccepted, by simpa using happroved, by omega, hbound⟩ h
  refine ⟨?_, hpolicy⟩
  rw [← Bool.not_eq_true, allowed_judge_iff, hpolicy, barrier]
  split_ifs <;> simp

/-! ### The calls -/

variable (w : World)

lemma write_of_mayWrite {allowWrite : Bool} (h : MayWrite sql allowWrite) :
    w.write sql allowWrite =
      ⟨[.write sql], (w.database.write sql).map (.written · .allow)⟩ := by
  unfold World.write
  rw [h.accepted]
  dsimp only
  rw [judge_of_mayWrite h]
  simp only [Decision.allow, Bool.not_true, Bool.false_eq_true, if_false]
  cases hdb : w.database.write sql with
  | error e =>
    rw [Traced.bind_of_error (e := e) hdb]
    rfl
  | ok rows =>
    rw [Traced.bind_of_ok (a := rows) hdb]
    rfl

lemma write_of_refused {refusal : Refusal} (h : Validation.write sql = some refusal)
    (allowWrite : Bool) : w.write sql allowWrite = ⟨[], .ok (.rejected refusal)⟩ := by
  unfold World.write
  rw [h]
  rfl

lemma write_of_denied (haccepted : Validation.write sql = none) {allowWrite : Bool}
    (h : ¬MayWrite sql allowWrite) :
    w.write sql allowWrite =
      ⟨[], .ok (.blocked (Policy.judge sql .blank (!allowWrite)))⟩ := by
  unfold World.write
  rw [haccepted]
  dsimp only
  rw [(judge_of_not_mayWrite haccepted h).1]
  rfl

/-- **What a write sends.** The text as it came, once, if it is accepted and approved, has fewer
than three joins, and has the word WHERE or the word LIMIT. Otherwise nothing is sent: a text that
is no write is rejected, and any other is blocked by the first of these that it lacks. -/
theorem write_sends (sql : String) (allowWrite : Bool) :
    (MayWrite sql allowWrite ∧
      (w.write sql allowWrite).calls = [.write sql] ∧
      (w.write sql allowWrite).outcome = (w.database.write sql).map (.written · .allow)) ∨
    (¬MayWrite sql allowWrite ∧
      (w.write sql allowWrite).calls = [] ∧
      ((∃ refusal, Validation.write sql = some refusal ∧
          (w.write sql allowWrite).outcome = .ok (.rejected refusal)) ∨
        (Validation.write sql = none ∧ ∃ d, d.allowed = false ∧ d.policy = barrier sql allowWrite ∧
          (w.write sql allowWrite).outcome = .ok (.blocked d)))) := by
  by_cases h : MayWrite sql allowWrite
  · rw [write_of_mayWrite w h]
    exact .inl ⟨h, rfl, rfl⟩
  · refine .inr ⟨h, ?_⟩
    cases haccepted : Validation.write sql with
    | some refusal =>
      rw [write_of_refused w haccepted]
      exact ⟨rfl, .inl ⟨refusal, rfl, rfl⟩⟩
    | none =>
      obtain ⟨hdenied, hpolicy⟩ := judge_of_not_mayWrite haccepted h
      rw [write_of_denied w haccepted h]
      exact ⟨rfl, .inr ⟨rfl, _, hdenied, hpolicy, rfl⟩⟩

/-! ### The words that bound a write -/

lemma hasLimit_iff_stands (sql : String) :
    (Statement.ofSql sql).hasLimit = true ↔ Stands isWordEnd isWordEnd "limit" sql := by
  rw [hasLimit_ofSql, hasLimit_iff_exists_wordAt]
  constructor
  · rintro ⟨u, v, t, h⟩
    exact ⟨u, t, v, h⟩
  · rintro ⟨u, t, v, h⟩
    exact ⟨u, v, t, h⟩

lemma isKeyword_where : IsKeyword "where".toList := by decide +kernel

lemma mem_calls_write_iff (sql text : String) (allowWrite : Bool) :
    Call.write text ∈ (w.write sql allowWrite).calls ↔ text = sql ∧ MayWrite sql allowWrite := by
  by_cases h : MayWrite sql allowWrite
  · simp [write_of_mayWrite w h, h]
  · cases haccepted : Validation.write sql with
    | some refusal => simp [write_of_refused w haccepted, h]
    | none => simp [write_of_denied w haccepted h, h]

/-- **The words that bound a write.** An approved write is sent, as it came, exactly when it is
accepted, has fewer than three joins, and somewhere in its text stands the word WHERE between blanks
or the word LIMIT with no word character beside it. -/
theorem approved_write_sent_iff (sql text : String) :
    Call.write text ∈ (w.write sql true).calls ↔
      text = sql ∧ Validation.write sql = none ∧ (Statement.ofSql sql).countWord "join" < 3 ∧
        (Stands isBlank isBlank "where" sql ∨ Stands isWordEnd isWordEnd "limit" sql) := by
  rw [mem_calls_write_iff, ← hasWord_iff_stands isKeyword_where, ← hasLimit_iff_stands]
  refine and_congr_right fun _ => ?_
  constructor
  · intro h
    exact ⟨h.accepted, h.fewJoins, h.bounded⟩
  · rintro ⟨haccepted, hjoins, hbounded⟩
    exact ⟨haccepted, rfl, hjoins, hbounded⟩

/-- A column, a quoted name, a literal and a comment with the word LIMIT each let a write of the
whole table through. -/
theorem whole_table_write_sent :
    ∃ w : World, ∀ sql ∈ ["UPDATE t SET limit = 5", "UPDATE t SET \"limit\" = 5",
        "UPDATE t SET note = 'no limit'", "DELETE FROM t -- no limit"],
      (Statement.ofSql sql).startsWithAny ["update", "delete"] = true ∧
        (w.write sql true).calls = [.write sql] ∧
        (Statement.ofSql sql).hasWord "where" = false ∧
        Clause.limit (lowerCase sql) = none := by
  refine ⟨⟨⟨.sqlite, fun _ => .ok .empty, fun _ => .ok .empty, fun _ => .ok 0, .ok .empty⟩,
    none, 0, 0, fun _ => 0⟩, ?_⟩
  decide +kernel

/-- A longer word does not count. -/
example : (Statement.ofSql "UPDATE t SET credit_limit = 5").hasLimit = false := by
  decide +kernel

end QueryGuard.Proofs.WriteCalls
