import QueryGuard.Proofs.Terminator

/-!
Where a word stands.

A keyword is found as a run of word characters. Here the run is put back into its text, with what
is before it and what is behind it, so that more can be asked of the place. At a character that is
no word character a text may be cut in two: the word stands in the one part or in the other.
-/

namespace QueryGuard.Proofs.StandingWords

open Text TextRuns LowerImage StatementWords Terminator

/-- The word `w`, in some letter case, stands in `s` behind `u` and in front of `v`, with no word
character beside it. -/
def WordAt (w u v s : List Char) : Prop :=
  ∃ t, s = u ++ t ++ v ∧ lower t = w ∧
    (∀ c ∈ u.getLast?, isWordEnd c = true) ∧ ∀ c ∈ v.head?, isWordEnd c = true

variable {w u v s r : List Char}

lemma free_of_lower (hw : IsKeyword w) {t : List Char} (ht : lower t = w) :
    ∀ c ∈ t, isWordEnd c = false := by
  intro c hc
  by_contra hend
  rw [lower_eq_iff hw.ascii] at ht
  refine hw.asciiLower_not_mem (not_word_of_isWordEnd c (by simpa using hend)) ?_
  rw [← ht]
  exact List.mem_map_of_mem hc

/-- A word stands where one of the runs has it as its lower case. -/
lemma exists_wordAt_iff (hw : IsKeyword w) (s : List Char) :
    (∃ u v, WordAt w u v s) ↔ ∃ t ∈ runs isWordEnd s, t.map asciiLower = w.map some := by
  constructor
  · rintro ⟨u, v, t, hs, ht, hu, hv⟩
    refine ⟨t, ?_, (lower_eq_iff hw.ascii).1 ht⟩
    rw [mem_runs, mem_splitWhere_iff (free_of_lower hw ht)]
    exact ⟨⟨u, v, hs, hu, hv⟩, hw.ne_nil_of_lower ht⟩
  · rintro ⟨t, hm, ht⟩
    obtain ⟨u, v, hs, hu, hv⟩ := delimited_of_mem_splitWhere (mem_runs.1 hm).1
    exact ⟨u, v, t, hs, (lower_eq_iff hw.ascii).2 ht, hu, hv⟩

/-- A word by itself has one place. -/
lemma wordAt_self_iff {t : List Char} (hw : IsKeyword w) (ht : lower t = w) :
    WordAt w u v t ↔ u = [] ∧ v = [] := by
  have hlength : ∀ {s}, lower s = w → s.length = w.length := by
    intro s hs
    simpa using congrArg List.length ((lower_eq_iff hw.ascii).1 hs)
  constructor
  · rintro ⟨s, hs, hl, -, -⟩
    have hsum := congrArg List.length hs
    rw [List.length_append, List.length_append, hlength ht, hlength hl] at hsum
    constructor <;> exact List.length_eq_zero_iff.1 (by omega)
  · rintro ⟨rfl, rfl⟩
    exact ⟨t, by simp, ht, by simp, by simp⟩

/-! ### Cutting a text -/

lemma wordAt_append_sep {c : Char} (hc : isWordEnd c = true) {v' : List Char}
    (h : WordAt w u v' s) : WordAt w u (v' ++ c :: r) (s ++ c :: r) := by
  obtain ⟨t, rfl, ht, hu, hv⟩ := h
  refine ⟨t, by simp, ht, hu, ?_⟩
  cases v' with
  | nil => simpa using hc
  | cons d v' => simpa using hv

lemma wordAt_sep_append {c : Char} (hc : isWordEnd c = true) {u' : List Char}
    (h : WordAt w u' v r) : WordAt w (s ++ c :: u') v (s ++ c :: r) := by
  obtain ⟨t, rfl, ht, hu, hv⟩ := h
  refine ⟨t, by simp, ht, ?_, hv⟩
  cases u' with
  | nil => simpa using hc
  | cons d u' => simpa [List.getLast?_cons_cons] using hu

/-- What is behind the word begins behind the cut, unless the word itself does. -/
lemma wordAt_cases (hw : IsKeyword w) {c : Char} (hc : isWordEnd c = true)
    (h : WordAt w u v (s ++ c :: r)) :
    (∃ v', v = v' ++ c :: r ∧ WordAt w u v' s) ∨ ∃ u', u = s ++ c :: u' ∧ WordAt w u' v r := by
  obtain ⟨t, hs, ht, hu, hv⟩ := h
  have hcut : c ∉ t := by
    intro hm
    have := free_of_lower hw ht c hm
    rw [hc] at this
    cases this
  rcases List.append_eq_append_iff.1 hs with ⟨a, hut, ha⟩ | ⟨a, rfl, rfl⟩
  · -- the cut is in front of `v`
    cases a with
    | nil =>
      obtain rfl : s = u ++ t := by simpa using hut.symm
      refine .inl ⟨[], by simpa using ha.symm, t, by simp, ht, hu, by simp⟩
    | cons d a =>
      obtain ⟨rfl, rfl⟩ := List.cons.inj ha
      rcases List.append_eq_append_iff.1 hut with ⟨b, rfl, hb⟩ | ⟨b, rfl, hb⟩
      · exact absurd (by simp [hb]) hcut
      · cases b with
        | nil =>
          rw [List.nil_append] at hb
          exact absurd (by simp [← hb]) hcut
        | cons e b =>
          obtain ⟨rfl, rfl⟩ := List.cons.inj hb
          refine .inr ⟨b, rfl, t, rfl, ht, ?_, hv⟩
          cases b with
          | nil => simp
          | cons e b => simpa [List.getLast?_cons_cons] using hu
  · refine .inl ⟨a, rfl, t, rfl, ht, hu, ?_⟩
    cases a with
    | nil => simp
    | cons d a => simpa using hv

/-- **Cutting a text.** A word stands on one side of a character that is no word character. -/
theorem wordAt_append_iff (hw : IsKeyword w) {c : Char} (hc : isWordEnd c = true) :
    WordAt w u v (s ++ c :: r) ↔
      (∃ v', v = v' ++ c :: r ∧ WordAt w u v' s) ∨ ∃ u', u = s ++ c :: u' ∧ WordAt w u' v r := by
  constructor
  · exact wordAt_cases hw hc
  · rintro (⟨v', rfl, h⟩ | ⟨u', rfl, h⟩)
    · exact wordAt_append_sep hc h
    · exact wordAt_sep_append hc h

/-! ### The word LIMIT -/

lemma hasLimit_iff_exists_wordAt (sql : String) :
    RowBound.hasLimit sql = true ↔ ∃ u v, WordAt RowBound.keyword u v sql.toList := by
  rw [hasLimit_iff, exists_wordAt_iff isKeyword_limit]

lemma not_wordAt_of_hasLimit {sql : String} (h : RowBound.hasLimit sql = false) :
    ¬WordAt RowBound.keyword u v sql.toList := by
  intro hw
  have hlimit := (hasLimit_iff_exists_wordAt sql).2 ⟨u, v, hw⟩
  rw [h] at hlimit
  cases hlimit

/-- Cutting off the terminator leaves every word in the body. -/
lemma hasLimit_body (sql : String) :
    RowBound.hasLimit (RowBound.splitTerminator sql).1 = RowBound.hasLimit sql := by
  obtain ⟨b, hs, hb⟩ := exists_trimEnd sql.toList
  obtain ⟨hsplit, hterm⟩ := splitTerminator_spec sql
  have hend : ∀ c ∈ (RowBound.splitTerminator sql).2.toList ++ b, isWordEnd c = true := by
    intro c hc
    rcases List.mem_append.1 hc with hc | hc
    · rcases hterm with ht | ⟨ht, -⟩
      · obtain rfl : c = ';' := by simpa [ht] using hc
        decide +kernel
      · simp [ht] at hc
    · exact isWordEnd_of_isBlank c (hb c hc)
  rw [Bool.eq_iff_iff, hasLimit_iff, hasLimit_iff, hs, hsplit, List.append_assoc,
    runs_append_of_sep hend]

end QueryGuard.Proofs.StandingWords
