import QueryGuard.Dialect
import QueryGuard.Proofs.StatementHead
import QueryGuard.Proofs.Terminator

/-!
What appending a row bound does to a text.

A text without a bound is cut into its body and a semicolon that may come last, and the clause
goes between the two. The clause has the word LIMIT with a space on either side, so the result has
a bound; it has no semicolon, so a single statement stays one; and it stands behind the first word,
so a read stays a read.
-/

namespace QueryGuard.Proofs.AppendedBound

open Text TextRuns LowerImage StatementWords Terminator StatementHead RowBound

/-- What is put between body and terminator. -/
def clause (rows : Nat) : List Char := ' ' :: ("LIMIT".toList ++ ' ' :: Nat.toDigits 10 rows)

lemma toList_bound {sql : String} (h : hasLimit sql = false) (rows : Nat) :
    (bound sql rows).1.toList =
      (splitTerminator sql).1.toList ++ clause rows ++ (splitTerminator sql).2.toList := by
  have hspaced : " LIMIT ".toList = ' ' :: ("LIMIT".toList ++ [' ']) := by decide
  unfold bound clause
  rw [if_neg (by simp [h])]
  simp only [String.toList_append, Nat.toString_eq_repr, Nat.toList_repr, hspaced,
    List.append_assoc, List.cons_append, List.nil_append]

/-- The spaces of the clause cut the bounded text into body, word and number. -/
lemma toList_bound_cut {sql : String} (h : hasLimit sql = false) (rows : Nat) :
    (bound sql rows).1.toList =
      (splitTerminator sql).1.toList ++ ' ' :: ("LIMIT".toList ++
        ' ' :: (Nat.toDigits 10 rows ++ (splitTerminator sql).2.toList)) := by
  rw [toList_bound h, clause]
  simp

lemma semicolon_not_mem_clause (rows : Nat) : ';' ∉ clause rows := by
  have hword : ';' ∉ ' ' :: "LIMIT".toList := by decide
  have hdigits : ';' ∉ Nat.toDigits 10 rows := by
    intro hm
    have hd := Nat.isDigit_of_mem_toDigits (by omega) (by omega) hm
    revert hd
    decide
  have hspace : ';' ≠ ' ' := by decide
  unfold clause
  rw [← List.cons_append, List.mem_append, List.mem_cons (l := Nat.toDigits 10 rows), not_or,
    not_or]
  exact ⟨hword, hspace, hdigits⟩

/-- **A bounded text has a bound**, be it its own or the one appended here. -/
theorem hasLimit_bound (sql : String) (rows : Nat) : hasLimit (bound sql rows).1 = true := by
  by_cases h : hasLimit sql = true
  · rw [bound_of_hasLimit h]
    exact h
  · have hend : isWordEnd ' ' = true := isWordEnd_of_isBlank _ (by decide)
    have hkeyword : IsKeyword "LIMIT".toList := by decide +kernel
    rw [hasLimit_iff, toList_bound (by simpa using h), clause, List.append_assoc,
      List.cons_append, List.append_assoc, List.cons_append, runs_append_sep hend,
      runs_append_sep hend, hkeyword.runs_eq]
    refine ⟨"LIMIT".toList, ?_, by decide⟩
    rw [List.singleton_append]
    exact List.mem_append_right _ List.mem_cons_self

/-- **A single statement stays one.** -/
theorem oneStatement_bound {sql : String} (h : OneStatement sql) (rows : Nat) :
    OneStatement (bound sql rows).1 := by
  by_cases hl : hasLimit sql = true
  · rw [bound_of_hasLimit hl]
    exact h
  · have hbody := (oneStatement_iff_body sql).1 h
    have hfree : ';' ∉ (splitTerminator sql).1.toList ++ clause rows := by
      rw [List.mem_append, not_or]
      exact ⟨hbody, semicolon_not_mem_clause rows⟩
    apply oneStatement_of_dropLast
    rw [toList_bound (by simpa using hl)]
    rcases (splitTerminator_spec sql).2 with ht | ⟨ht, -⟩
    · rw [ht]
      simpa using hfree
    · rw [ht]
      intro hm
      rw [show "".toList = ([] : List Char) from rfl, List.append_nil] at hm
      exact hfree (List.dropLast_subset _ hm)

lemma begins_bound {head : String} (hh : IsHead head) {sql : String}
    (h : Begins head sql.toList) (rows : Nat) : Begins head (bound sql rows).1.toList := by
  by_cases hl : hasLimit sql = true
  · rw [bound_of_hasLimit hl]
    exact h
  · obtain ⟨b, hs, hb⟩ := exists_trimEnd sql.toList
    obtain ⟨ht, hterm⟩ := splitTerminator_spec sql
    rw [hs, ht, List.append_assoc] at h
    have hbody : Begins head (splitTerminator sql).1.toList := by
      refine begins_of_append hh (fun c hc => ?_) h
      rcases List.mem_append.1 hc with hc | hc
      · rcases hterm with hterm | ⟨hterm, -⟩
        · obtain rfl : c = ';' := by simpa [hterm] using hc
          decide +kernel
        · simp [hterm] at hc
      · exact not_word_of_blank (hb c hc)
    rw [toList_bound (by simpa using hl), List.append_assoc]
    exact begins_append hh hbody _

/-- **A read stays a read.** -/
theorem isRead_bound {sql : String} (h : (Statement.ofSql sql).isRead = true) (rows : Nat) :
    (Statement.ofSql (bound sql rows).1).isRead = true := by
  rw [isRead_ofSql_iff] at h ⊢
  obtain ⟨head, hm, hb⟩ := h
  exact ⟨head, hm, begins_bound (isHead_of_isRead hm) hb rows⟩

/-- The statement that asks for a plan ends where its only semicolon may stand. -/
theorem semicolon_not_mem_explainSql {sql : String} (h : OneStatement sql) (d : Dialect) :
    ';' ∉ (d.explainSql sql).toList := by
  have hhead : ';' ∉ d.explainHead.toList := by
    cases d <;> decide
  unfold Dialect.explainSql
  rw [String.toList_append, List.mem_append, not_or]
  exact ⟨hhead, (oneStatement_iff_body sql).1 h⟩

end QueryGuard.Proofs.AppendedBound
