import QueryGuard.Proofs.BoundValue
import QueryGuard.Proofs.RunCalls

/-!
The bound of a preview.

A statement without a bound gets one, once. Where the policy is enforced the plan has appended the
bound of reads before the preview comes to append its own, so the rows of such a preview are those
of a read.
-/

namespace QueryGuard.Proofs.PreviewBound

open Text AppendedBound BoundValue RunCalls

/-- The rows that a preview of a statement without a bound is given. -/
def previewRows (limits : Limits) (safe : Bool) : Nat :=
  if safe then limits.safe else limits.preview

variable (limits : Limits) {sql : String}

lemma previewRows_le_iff (safe : Bool) :
    previewRows limits safe ≤ limits.preview ↔ safe = false ∨ limits.safe ≤ limits.preview := by
  cases safe <;> simp [previewRows]

/-- A second bound is not appended. -/
lemma executedSql_preview {plan : Plan} (hplan : plan.safeSql = (RowBound.bound sql limits.safe).1)
    (safe : Bool) :
    World.executedSql limits sql plan ⟨.preview, safe⟩ =
      (RowBound.bound sql (previewRows limits safe)).1 := by
  unfold World.executedSql previewRows
  cases safe with
  | false => rfl
  | true =>
    dsimp only
    rw [if_pos rfl, if_pos rfl, hplan, RowBound.bound_of_hasLimit (hasLimit_bound sql limits.safe)]

/-- **The rows of a preview.** A preview of a statement without a bound sends, and executes, the
statement with one bound, whose number is that of reads where the policy is enforced. So the bound
of previews caps it exactly when the policy is not enforced or the bound of reads is no greater,
as far as 64 bits hold the number. -/
theorem preview_rows (w : World) (h : RowBound.hasLimit sql = false) (safe : Bool) {text : String}
    (ht : Call.query text ∈ (w.run limits sql ⟨.preview, safe⟩).calls ∨
      executedText (w.run limits sql ⟨.preview, safe⟩) = some text) :
    text = (RowBound.bound sql (previewRows limits safe)).1 ∧
    Clause.limit (lowerCase text) =
      (if previewRows limits safe < Decimal.words64 then some (previewRows limits safe)
        else none) ∧
    ((∃ rows ≤ limits.preview, Clause.limit (lowerCase text) = some rows) ↔
      previewRows limits safe < Decimal.words64 ∧
        (safe = false ∨ limits.safe ≤ limits.preview)) := by
  obtain ⟨plan, hplan, -, rfl⟩ := exists_of_sent w limits ht
  obtain ⟨plan', hplan', hsafe, -⟩ := BoundedPlan.exists_build w.database sql limits.safe none
  obtain rfl : plan = plan' := by
    rw [hplan] at hplan'
    exact Except.ok.inj hplan'
  have hlimit := limit_bound h (previewRows limits safe)
  rw [executedSql_preview limits hsafe, hlimit, ← previewRows_le_iff]
  refine ⟨rfl, rfl, ?_⟩
  split
  · rename_i hfit
    simp [hfit]
  · rename_i hfit
    simp [hfit]

/-- A database that has no rows and answers whatever it is sent. -/
def quiet : World where
  database :=
    { dialect := .sqlite
      explain := fun _ => .ok .empty
      query := fun _ => .ok .empty
      write := fun _ => .ok 0
      schema := .ok .empty }
  drafter := none
  searchedAt := 0
  storedAt := 0
  elapsed := fun _ => 0.0

/-- A preview that is not checked by the policy gets the bound of previews. -/
theorem preview_rows_unchecked :
    RowBound.hasLimit "SELECT * FROM users" = false ∧
      Call.query "SELECT * FROM users LIMIT 50" ∈
        (quiet.run {} "SELECT * FROM users" ⟨.preview, false⟩).calls ∧
      Clause.limit (lowerCase "SELECT * FROM users LIMIT 50") = some 50 := by
  have hnone : RowBound.hasLimit "SELECT * FROM users" = false := by decide +kernel
  have hsent : Call.query "SELECT * FROM users LIMIT 50" ∈
      (quiet.run {} "SELECT * FROM users" ⟨.preview, false⟩).calls := by
    decide +kernel
  obtain ⟨-, hvalue, -⟩ := preview_rows {} quiet hnone false (.inl hsent)
  exact ⟨hnone, hsent, hvalue⟩

/-- With the limits as they come, a preview that is checked by the policy asks for a thousand rows,
where previews are bound to fifty. -/
theorem preview_exceeds :
    Validation.read "SELECT * FROM users" = none ∧
      RowBound.hasLimit "SELECT * FROM users" = false ∧
      executedText (quiet.run {} "SELECT * FROM users" ⟨.preview, true⟩) =
        some "SELECT * FROM users LIMIT 1000" ∧
      Clause.limit (lowerCase "SELECT * FROM users LIMIT 1000") = some 1000 ∧
      ¬1000 ≤ ({} : Limits).preview := by
  decide +kernel

end QueryGuard.Proofs.PreviewBound
