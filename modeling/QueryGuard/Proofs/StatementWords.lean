import QueryGuard.Proofs.LowerImage
import QueryGuard.Statement

/-!
The words of a statement, found in the text it was made from.

A statement is examined in lower case and with its blanks collapsed. Here its answers are read
off the text as it came: a word between spaces is a word between blanks whose lower case it is,
and the word LIMIT stands in the one exactly when it stands in the other.
-/

namespace QueryGuard.Proofs.StatementWords

open Text TextRuns LowerImage

lemma runs_map {p : Char → Bool} {f : Char → Char} (hf : ∀ c, p (f c) = p c) (s : List Char) :
    runs p (s.map f) = (runs p s).map (List.map f) := by
  rw [runs, splitWhere_map hf, List.filter_map, runs]
  congr 2
  funext w
  simp

lemma mem_lowered_iff {ss ts : List (List Char)} (h : List.Forall₂ Lowered ss ts)
    {w : List Char} (hw : Ascii w) :
    w ∈ ts ↔ ∃ s ∈ ss, s.map asciiLower = w.map some := by
  induction h with
  | nil => simp
  | @cons s t ss ts hst _ ih =>
    rw [List.mem_cons, ih, eq_comm, lowered_eq_iff hst hw]
    simp

lemma lower_eq_iff {s w : List Char} (hw : Ascii w) :
    lower s = w ↔ s.map asciiLower = w.map some :=
  lowered_eq_iff (lowered_lower s) hw

lemma not_word_of_isSpace (c : Char) (h : isSpace c = true) : isWordChar c = false := by
  rw [beq_iff_eq.1 h]
  decide +kernel

lemma not_word_of_isWordEnd (c : Char) (h : isWordEnd c = true) : isWordChar c = false := by
  simpa [isWordEnd] using h

lemma isWordEnd_of_isBlank (c : Char) (h : isBlank c = true) : isWordEnd c = true := by
  simp [isWordEnd, not_word_of_blank h]

/-- What is looked for in a statement: one or more ASCII word characters. -/
structure IsKeyword (w : List Char) : Prop where
  ascii : Ascii w
  ne_nil : w ≠ []
  letters : ∀ c ∈ w, isWordChar c = true

namespace IsKeyword

variable {w : List Char}

lemma iff_all :
    (!w.isEmpty && w.all fun c => decide (c.toNat < 0x80) && isWordChar c) = true ↔
      IsKeyword w := by
  simp only [Bool.and_eq_true, Bool.not_eq_true', List.isEmpty_eq_false_iff, List.all_eq_true,
    decide_eq_true_eq]
  constructor
  · rintro ⟨hne, h⟩
    exact ⟨fun c hc => (h c hc).1, hne, fun c hc => (h c hc).2⟩
  · rintro ⟨hascii, hne, hletters⟩
    exact ⟨hne, fun c hc => ⟨hascii c hc, hletters c hc⟩⟩

instance : Decidable (IsKeyword w) := decidable_of_iff _ iff_all

/-- A keyword is a single run. -/
lemma runs_eq (h : IsKeyword w) : runs isWordEnd w = [w] := by
  refine runs_of_free h.ne_nil fun c hc => ?_
  rw [isWordEnd, h.letters c hc]
  rfl

lemma space_not_mem (h : IsKeyword w) : ' ' ∉ w := by
  intro hm
  have hc := h.letters ' ' hm
  rw [not_word_of_isSpace ' ' isSpace_space] at hc
  cases hc

/-- What is no word character becomes no letter of a keyword. -/
lemma asciiLower_not_mem (h : IsKeyword w) {c : Char} (hc : isWordChar c = false) :
    asciiLower c ∉ w.map some := by
  intro hm
  obtain ⟨d, hd, hdc⟩ := List.mem_map.1 hm
  rcases image_cases (.alone (c := c)) with ⟨e, ha, ht, -⟩ | ⟨ha, -⟩ | ⟨e, ha, -, -⟩
  · rw [image_of_not_word .alone hc] at ht
    obtain rfl : c = e := by simpa using ht
    obtain rfl : d = c := by simpa [ha] using hdc
    rw [h.letters d hd] at hc
    cases hc
  · simp [ha] at hdc
  · simp [ha] at hdc

lemma not_blank_of_lower (h : IsKeyword w) {t : List Char} (ht : lower t = w) :
    ∀ c ∈ t, isBlank c = false := by
  intro c hc
  rw [lower_eq_iff h.ascii] at ht
  by_contra hb
  refine h.asciiLower_not_mem (not_word_of_blank (by simpa using hb)) ?_
  rw [← ht]
  exact List.mem_map_of_mem hc

lemma ne_nil_of_lower (h : IsKeyword w) {t : List Char} (ht : lower t = w) : t ≠ [] := by
  rintro rfl
  exact h.ne_nil ht.symm

end IsKeyword

/-- A statement is empty when its text has no words. -/
lemma isEmpty_ofSql_iff (sql : String) :
    (Statement.ofSql sql).isEmpty = true ↔ words sql.toList = [] := by
  rw [Statement.isEmpty, Statement.toList_text_ofSql, List.isEmpty_iff,
    ← lowered_eq_nil_iff (lowered_lower _)]
  constructor
  · intro hc
    rw [← runs_space_collapse, hc, runs_nil]
  · intro hw
    rw [collapse, hw]
    rfl

/-- **Words of a statement.** A keyword stands between spaces of the statement exactly when a word
of the text has it as its lower case. -/
theorem hasWord_ofSql_iff {word : String} (hw : IsKeyword word.toList) (sql : String) :
    (Statement.ofSql sql).hasWord word = true ↔
      ∃ v ∈ words sql.toList, lower v = word.toList := by
  unfold Statement.hasWord
  rw [Statement.toList_text_ofSql, contains_spaced_iff hw.ne_nil hw.space_not_mem]
  have h := runs_lowered not_word_of_isSpace (lowered_lower (collapse sql.toList))
  rw [runs_space_collapse] at h
  calc word.toList ∈ splitWhere isSpace (lower (collapse sql.toList))
      ↔ word.toList ∈ runs isSpace (lower (collapse sql.toList)) := by simp [mem_runs, hw.ne_nil]
    _ ↔ ∃ v ∈ words sql.toList, v.map asciiLower = word.toList.map some :=
      mem_lowered_iff h hw.ascii
    _ ↔ ∃ v ∈ words sql.toList, lower v = word.toList := by simp only [lower_eq_iff hw.ascii]

lemma count_lowered {ss ts : List (List Char)} (h : List.Forall₂ Lowered ss ts) {w : List Char}
    (hw : Ascii w) : ts.count w = ss.countP fun s => s.map asciiLower = w.map some := by
  induction h with
  | nil => rfl
  | @cons s t ss ts hst _ ih =>
    have hiff := lowered_eq_iff hst hw
    rw [List.count_cons, List.countP_cons, ih]
    by_cases ht : t = w
    · simp [ht, hiff.1 ht]
    · simp [ht, mt hiff.2 ht]

/-- **Counted words.** A keyword is counted as often as one of the runs of the text has it as its
lower case. -/
theorem countWord_ofSql {word : String} (hw : IsKeyword word.toList) (sql : String) :
    (Statement.ofSql sql).countWord word =
      (runs isWordEnd sql.toList).countP fun r => r.map asciiLower = word.toList.map some := by
  unfold Statement.countWord
  rw [Statement.toList_text_ofSql, length_standing hw.ne_nil hw.letters,
    count_lowered (runs_lowered not_word_of_isWordEnd (lowered_lower _)) hw.ascii,
    runs_collapse isWordEnd_of_isBlank]

/-! ### The word LIMIT -/

lemma isKeyword_limit : IsKeyword RowBound.keyword := by decide +kernel

lemma hasLimit_eq_true_iff (sql : String) :
    RowBound.hasLimit sql = true ↔
      RowBound.keyword ∈ runs isWordEnd (sql.toList.map Char.toLower) := by
  unfold RowBound.hasLimit
  rw [Bool.not_eq_true', standing_isEmpty_iff isKeyword_limit.ne_nil isKeyword_limit.letters]

/-- A text has a bound when one of its runs of word characters is LIMIT in some letter case. -/
theorem hasLimit_iff (sql : String) :
    RowBound.hasLimit sql = true ↔
      ∃ r ∈ runs isWordEnd sql.toList, r.map asciiLower = RowBound.keyword.map some := by
  have hend : ∀ c, isWordEnd c.toLower = isWordEnd c := by
    intro c
    rw [isWordEnd, isWordChar_toLower, isWordEnd]
  rw [hasLimit_eq_true_iff, runs_map hend, List.mem_map]
  simp only [map_toLower_eq_iff isKeyword_limit.ascii (by decide)]

/-- **Bounds survive normalisation.** A statement has a bound exactly when its text has one. -/
theorem hasLimit_ofSql (sql : String) :
    (Statement.ofSql sql).hasLimit = RowBound.hasLimit sql := by
  rw [Bool.eq_iff_iff, Statement.hasLimit, hasLimit_iff sql, hasLimit_eq_true_iff,
    Statement.toList_text_ofSql, map_toLower_lowered (lowered_lower _),
    mem_lowered_iff (runs_lowered not_word_of_isWordEnd (lowered_lower _)) isKeyword_limit.ascii,
    runs_collapse isWordEnd_of_isBlank]

end QueryGuard.Proofs.StatementWords
