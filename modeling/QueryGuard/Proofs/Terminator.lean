import Mathlib.Data.List.DropRight
import QueryGuard.Proofs.StatementWords

/-!
The semicolon that ends a statement, and the ones that do not.

A text holds a single statement when no semicolon stands before its last character that is not
blank. The statement made from it is asked the same question; the answer is the same, since
neither lower case nor collapsing the blanks moves a semicolon past another sign.
-/

namespace QueryGuard.Proofs.Terminator

open Text TextRuns LowerImage StatementWords

/-- No semicolon before the last character that is not blank. -/
def OneStatement (sql : String) : Prop := ';' ∉ (trimEnd sql.toList).dropLast

instance (sql : String) : Decidable (OneStatement sql) := inferInstanceAs (Decidable (_ ∉ _))

/-- What ends a statement or a word of it. -/
def isBreak (c : Char) : Bool := isBlank c || c == ';'

/-- At most `n` semicolons, and nothing but blanks between and behind them. -/
def SemicolonsLast (n : Nat) (s : List Char) : Prop :=
  s.count ';' ≤ n ∧
    ∃ body tail, s = body ++ tail ∧ ';' ∉ body ∧ ∀ c ∈ tail, isBreak c = true

/-! ### Blanks at the end -/

lemma trimEnd_eq_rdropWhile (s : List Char) : trimEnd s = s.rdropWhile isBlank := rfl

lemma trimEnd_append_of_blank {b : List Char} (hb : ∀ c ∈ b, isBlank c = true) (s : List Char) :
    trimEnd (s ++ b) = trimEnd s := by
  induction b using List.reverseRecOn with
  | nil => simp
  | append_singleton b c ih =>
    rw [trimEnd_eq_rdropWhile, ← List.append_assoc,
      List.rdropWhile_concat_pos _ _ _ (hb c (by simp)), ← trimEnd_eq_rdropWhile]
    exact ih fun d hd => hb d (by simp [hd])

lemma trimEnd_concat {c : Char} (hc : isBlank c = false) (s : List Char) :
    trimEnd (s ++ [c]) = s ++ [c] := by
  rw [trimEnd_eq_rdropWhile, List.rdropWhile_concat_neg _ _ _ (by simp [hc])]

lemma exists_trimEnd (s : List Char) :
    ∃ b, s = trimEnd s ++ b ∧ ∀ c ∈ b, isBlank c = true := by
  refine ⟨s.rtakeWhile isBlank, List.rdropWhile_append_rtakeWhile.symm, ?_⟩
  intro c hc
  exact List.mem_rtakeWhile_imp hc

/-- A text is blank, or it has a last character that is not. -/
lemma trimEnd_cases (s : List Char) :
    (trimEnd s = [] ∧ ∀ c ∈ s, isBlank c = true) ∨
      ∃ y c b, s = y ++ c :: b ∧ trimEnd s = y ++ [c] ∧ isBlank c = false ∧
        ∀ d ∈ b, isBlank d = true := by
  obtain ⟨b, hs, hb⟩ := exists_trimEnd s
  rcases List.eq_nil_or_concat (trimEnd s) with h | ⟨y, c, h⟩
  · refine .inl ⟨h, ?_⟩
    rw [h, List.nil_append] at hs
    rwa [hs]
  · rw [List.concat_eq_append] at h
    refine .inr ⟨y, c, b, ?_, h, ?_, hb⟩
    · rw [h] at hs
      simpa using hs
    · have hl : s.rdropWhile isBlank ≠ [] := by
        rw [← trimEnd_eq_rdropWhile, h]
        simp
      have hc := List.rdropWhile_last_not isBlank s hl
      simp only [← trimEnd_eq_rdropWhile, h] at hc
      simpa using hc

lemma not_isBlank_getLast?_trimEnd (s : List Char) :
    ∀ c ∈ (trimEnd s).getLast?, isBlank c = false := by
  intro c hc
  rcases trimEnd_cases s with ⟨h, -⟩ | ⟨y, d, _, -, h, hd, -⟩
  · simp [h] at hc
  · obtain rfl : d = c := by simpa [h] using hc
    exact hd

lemma trimEnd_append {x : List Char} (hx : trimEnd x ≠ []) (a : List Char) :
    trimEnd (a ++ x) = a ++ trimEnd x := by
  rcases trimEnd_cases x with ⟨h, -⟩ | ⟨y, c, b, rfl, h, hc, hb⟩
  · exact absurd h hx
  · have e : a ++ (y ++ c :: b) = (a ++ y ++ [c]) ++ b := by simp
    rw [h, e, trimEnd_append_of_blank hb, trimEnd_concat hc, List.append_assoc]

/-! ### One statement -/

/-- Blanks do not count: what matters is the order of the other signs. -/
lemma mem_dropLast_trimEnd_iff {x : Char} (hx : isBlank x = false) (s : List Char) :
    x ∈ (trimEnd s).dropLast ↔ x ∈ (s.filter fun c => !isBlank c).dropLast := by
  rcases trimEnd_cases s with ⟨h, hb⟩ | ⟨y, c, b, rfl, h, hc, hb⟩
  · have hf : (s.filter fun c => !isBlank c) = [] := by
      rw [List.filter_eq_nil_iff]
      intro c hc
      simp [hb c hc]
    simp [h, hf]
  · have hf : (b.filter fun c => !isBlank c) = [] := by
      rw [List.filter_eq_nil_iff]
      intro d hd
      simp [hb d hd]
    simp [h, List.filter_append, hc, hf, hx]

lemma filter_collapse (s : List Char) :
    ((collapse s).filter fun c => !isBlank c) = s.filter fun c => !isBlank c := by
  rw [← flatten_runs, ← flatten_runs, runs_collapse fun _ h => h]

lemma trimEnd_intercalate {ws : List (List Char)} (hne : ws ≠ [])
    (hws : ∀ w ∈ ws, w ≠ [] ∧ ∀ c ∈ w, isBlank c = false) :
    trimEnd ([' '].intercalate ws) = [' '].intercalate ws ∧ [' '].intercalate ws ≠ [] := by
  induction ws with
  | nil => exact absurd rfl hne
  | cons w ws ih =>
    obtain ⟨hw, hfree⟩ := hws w (by simp)
    cases ws with
    | nil =>
      rw [List.intercalate_singleton]
      obtain ⟨y, c, rfl⟩ := (List.eq_nil_or_concat w).resolve_left hw
      rw [List.concat_eq_append] at hfree ⊢
      exact ⟨trimEnd_concat (hfree c (by simp)) y, by simp⟩
    | cons v vs =>
      obtain ⟨ht, hn⟩ := ih (by simp) fun u hu => hws u (by simp [hu])
      rw [List.intercalate_cons_cons, trimEnd_append (by rw [ht]; exact hn), ht]
      exact ⟨rfl, by simp⟩

lemma trimEnd_collapse (s : List Char) : trimEnd (collapse s) = collapse s := by
  unfold collapse
  by_cases h : words s = []
  · rw [h]; rfl
  · exact (trimEnd_intercalate h fun w hw =>
      ⟨ne_nil_of_mem_words hw, fun c hc => not_isBlank_of_mem_words hw hc⟩).1

/-- **Semicolons survive normalisation.** A text is a single statement exactly when the statement
made from it has no semicolon before its last character. -/
theorem oneStatement_iff (sql : String) :
    OneStatement sql ↔ (Statement.ofSql sql).hasInnerSemicolon = false := by
  have hblank : isBlank ';' = false := by decide
  have hword : isWordChar ';' = false := by decide +kernel
  have h : ';' ∈ (lower (collapse sql.toList)).dropLast ↔ ';' ∈ (trimEnd sql.toList).dropLast := by
    rw [mem_dropLast_lowered (lowered_lower _) hword, ← trimEnd_collapse,
      mem_dropLast_trimEnd_iff hblank, filter_collapse, mem_dropLast_trimEnd_iff hblank]
  rw [OneStatement, ← h, Statement.hasInnerSemicolon, Statement.toList_text_ofSql]
  simp

lemma oneStatement_of_dropLast {sql : String} (h : ';' ∉ sql.toList.dropLast) :
    OneStatement sql := by
  intro hm
  refine h ?_
  obtain ⟨b, hs, -⟩ := exists_trimEnd sql.toList
  rw [hs]
  cases b with
  | nil => simpa using hm
  | cons c b =>
    rw [List.dropLast_append_cons]
    exact List.mem_append_left _ (List.dropLast_subset _ hm)

/-! ### The semicolon that is split off -/

open RowBound in
/-- Body and terminator make up the text, the blanks at its end apart. -/
lemma splitTerminator_spec (sql : String) :
    trimEnd sql.toList = (splitTerminator sql).1.toList ++ (splitTerminator sql).2.toList ∧
      ((splitTerminator sql).2 = ";" ∨
        (splitTerminator sql).2 = "" ∧ (splitTerminator sql).1.toList.getLast? ≠ some ';') := by
  unfold splitTerminator
  rcases List.eq_nil_or_concat (trimEnd sql.toList) with h | ⟨y, c, h⟩
  · simp [h]
  · rw [List.concat_eq_append] at h
    by_cases hc : c = ';'
    · subst hc
      simp [h]
    · simp [h, hc]

/-- A text is a single statement when its body has no semicolon. -/
theorem oneStatement_iff_body (sql : String) :
    OneStatement sql ↔ ';' ∉ (RowBound.splitTerminator sql).1.toList := by
  obtain ⟨hs, h⟩ := splitTerminator_spec sql
  unfold OneStatement
  rw [hs]
  generalize (RowBound.splitTerminator sql).1.toList = body at hs h
  rcases h with h | ⟨h, hlast⟩
  · simp [h]
  · rcases List.eq_nil_or_concat body with rfl | ⟨y, c, rfl⟩
    · simp [h]
    · have hc : c ≠ ';' := by simpa using hlast
      simp [h, Ne.symm hc]

/-! ### Several semicolons at the end -/

lemma semicolonsLast_zero_iff (s : List Char) : SemicolonsLast 0 s ↔ ';' ∉ s := by
  constructor
  · rintro ⟨h, -⟩
    rw [← List.count_eq_zero]
    omega
  · intro h
    refine ⟨?_, s, [], by simp, h, by simp⟩
    rw [List.count_eq_zero.2 h]

/-- What has no semicolon may be put in front. -/
lemma semicolonsLast_append_iff {head : List Char} (hh : ';' ∉ head) (n : Nat) (s : List Char) :
    SemicolonsLast n (head ++ s) ↔ SemicolonsLast n s := by
  unfold SemicolonsLast
  rw [List.count_append, List.count_eq_zero.2 hh, Nat.zero_add]
  refine and_congr_right fun _ => ?_
  constructor
  · rintro ⟨body, tail, hs, hbody, htail⟩
    rcases List.append_eq_append_iff.1 hs with ⟨y, rfl, hy⟩ | ⟨y, -, rfl⟩
    · exact ⟨y, tail, hy, fun h => hbody (List.mem_append_right _ h), htail⟩
    · exact ⟨[], s, rfl, by simp, fun c hc => htail c (List.mem_append_right _ hc)⟩
  · rintro ⟨body, tail, rfl, hbody, htail⟩
    refine ⟨head ++ body, tail, by rw [List.append_assoc], ?_, htail⟩
    rw [List.mem_append, not_or]
    exact ⟨hh, hbody⟩

/-- Breaks at the end count only by their semicolons. -/
lemma exists_body_append_iff {r : List Char} (hr : ∀ c ∈ r, isBreak c = true) (s : List Char) :
    (∃ body tail, s ++ r = body ++ tail ∧ ';' ∉ body ∧ ∀ c ∈ tail, isBreak c = true) ↔
      ∃ body tail, s = body ++ tail ∧ ';' ∉ body ∧ ∀ c ∈ tail, isBreak c = true := by
  constructor
  · rintro ⟨body, tail, hs, hbody, htail⟩
    rcases List.append_eq_append_iff.1 hs with ⟨y, rfl, -⟩ | ⟨y, rfl, rfl⟩
    · exact ⟨s, [], by simp, fun h => hbody (List.mem_append_left _ h), by simp⟩
    · exact ⟨body, y, rfl, hbody, fun c hc => htail c (List.mem_append_left _ hc)⟩
  · rintro ⟨body, tail, rfl, hbody, htail⟩
    refine ⟨body, tail ++ r, by rw [List.append_assoc], hbody, fun c hc => ?_⟩
    rcases List.mem_append.1 hc with hc | hc
    · exact htail c hc
    · exact hr c hc

lemma semicolonsLast_append_blanks_iff {b : List Char} (hb : ∀ c ∈ b, isBlank c = true) (n : Nat)
    (s : List Char) : SemicolonsLast n (s ++ b) ↔ SemicolonsLast n s := by
  have hbreak : ∀ c ∈ b, isBreak c = true := by
    intro c hc
    rw [isBreak, hb c hc, Bool.true_or]
  have hcount : b.count ';' = 0 := by
    rw [List.count_eq_zero]
    intro hm
    have hblank := hb ';' hm
    revert hblank
    decide
  unfold SemicolonsLast
  rw [exists_body_append_iff hbreak, List.count_append, hcount, Nat.add_zero]

lemma semicolonsLast_append_semicolon_iff (n : Nat) (s : List Char) :
    SemicolonsLast (n + 1) (s ++ [';']) ↔ SemicolonsLast n s := by
  have hbreak : ∀ c ∈ [';'], isBreak c = true := by
    intro c hc
    rw [List.mem_singleton.1 hc]
    decide
  unfold SemicolonsLast
  rw [exists_body_append_iff hbreak, List.count_append, List.count_singleton_self,
    Nat.add_le_add_iff_right]

/-- A text that does not end in a break has semicolons at its end only if it has none. -/
lemma semicolonsLast_iff_of_getLast? {s : List Char} (h : ∀ c ∈ s.getLast?, isBreak c = false)
    (m n : Nat) : SemicolonsLast m s ↔ SemicolonsLast n s := by
  have hzero : ∀ {k}, SemicolonsLast k s → s.count ';' = 0 := by
    rintro k ⟨-, body, tail, rfl, hbody, htail⟩
    rcases List.eq_nil_or_concat tail with rfl | ⟨y, c, rfl⟩
    · rw [List.append_nil]
      exact List.count_eq_zero.2 hbody
    · have hc := htail c (by simp)
      rw [h c (by simp)] at hc
      cases hc
  constructor
  · intro hm
    have := hzero hm
    exact ⟨by omega, hm.2⟩
  · intro hn
    have := hzero hn
    exact ⟨by omega, hn.2⟩

/-- Splitting the terminator off takes one semicolon away. -/
lemma semicolonsLast_succ_iff (n : Nat) (sql : String) :
    SemicolonsLast (n + 1) sql.toList ↔
      SemicolonsLast n (RowBound.splitTerminator sql).1.toList := by
  obtain ⟨b, hs, hb⟩ := exists_trimEnd sql.toList
  obtain ⟨hsplit, h⟩ := splitTerminator_spec sql
  have hlast := not_isBlank_getLast?_trimEnd sql.toList
  rw [hs, semicolonsLast_append_blanks_iff hb]
  rw [hsplit] at hlast ⊢
  generalize (RowBound.splitTerminator sql).1.toList = body at h hlast ⊢
  rcases h with h | ⟨h, hne⟩
  · rw [h]
    exact semicolonsLast_append_semicolon_iff n body
  · rw [h, show ("" : String).toList = [] from rfl, List.append_nil] at hlast ⊢
    refine semicolonsLast_iff_of_getLast? (fun c hc => ?_) (n + 1) n
    have hcne : c ≠ ';' := by
      rintro rfl
      exact hne hc
    simp [isBreak, hlast c hc, hcne]

/-- A text is a single statement when it has at most one semicolon, at its end. -/
lemma oneStatement_iff_semicolonsLast (sql : String) :
    OneStatement sql ↔ SemicolonsLast 1 sql.toList := by
  rw [oneStatement_iff_body, semicolonsLast_succ_iff, semicolonsLast_zero_iff]

end QueryGuard.Proofs.Terminator
