import QueryGuard.Proofs.StatementWords

/-!
How a statement begins, found in the text it was made from.

A head such as SELECT has no blanks, so it is part of the first word. Collapsing the blanks of a
text keeps its first word, and lower case is undone one character after the other.
-/

namespace QueryGuard.Proofs.StatementHead

open Text TextRuns LowerImage StatementWords

/-- The text begins with `head` in some letter case, blanks in front left out of account. -/
def Begins (head : String) (s : List Char) : Prop :=
  head.toList.map some <+: (dropBlanks s).map asciiLower

/-- A keyword that can be looked for at the head of a statement. Its last letter is no `i`, since
that letter could come from a capital that becomes two characters. -/
structure IsHead (head : String) : Prop extends IsKeyword head.toList where
  last : head.toList.getLast? ≠ some 'i'

lemma isHead_of_mem {head : String} (h : head ∈ ["select", "with", "insert", "update", "delete"]) :
    IsHead head := by
  have h' : ∀ head ∈ ["select", "with", "insert", "update", "delete"],
      IsKeyword head.toList ∧ head.toList.getLast? ≠ some 'i' := by
    decide +kernel
  exact ⟨(h' head h).1, (h' head h).2⟩

lemma prefix_append_iff {α : Type} {w a b : List α} (hb : ∀ c ∈ b.head?, c ∉ w) :
    w <+: a ++ b ↔ w <+: a := by
  refine ⟨fun h => ?_, fun h => h.trans (List.prefix_append a b)⟩
  induction a generalizing w with
  | nil =>
    cases b with
    | nil => simpa using h
    | cons c b =>
      cases w with
      | nil => exact List.prefix_refl []
      | cons d w =>
        rw [List.nil_append, List.cons_prefix_cons] at h
        exact absurd (by simp [h.1]) (hb c (by simp))
  | cons x a ih =>
    cases w with
    | nil => exact List.nil_prefix
    | cons d w =>
      rw [List.cons_append, List.cons_prefix_cons] at h
      rw [List.cons_prefix_cons]
      exact ⟨h.1, ih (fun c hc hw => hb c hc (by simp [hw])) h.2⟩

/-- The head is part of what stands in front of the first character that is no word character. -/
lemma head_prefix_append_iff {head : String} (hh : IsHead head) {s r : List Char}
    (hr : ∀ c ∈ r.head?, isWordChar c = false) :
    head.toList.map some <+: (s ++ r).map asciiLower ↔
      head.toList.map some <+: s.map asciiLower := by
  rw [List.map_append]
  refine prefix_append_iff fun c hc => ?_
  rw [List.head?_map, Option.mem_def, Option.map_eq_some_iff] at hc
  obtain ⟨d, hd, rfl⟩ := hc
  exact hh.asciiLower_not_mem (hr d hd)

/-- Only blanks and other signs that are no word characters follow: they are no part of a head. -/
lemma begins_of_append {head : String} (hh : IsHead head) {s r : List Char}
    (hr : ∀ c ∈ r, isWordChar c = false) (h : Begins head (s ++ r)) : Begins head s := by
  unfold Begins dropBlanks at h ⊢
  rw [List.dropWhile_append] at h
  by_cases hs : (s.dropWhile isBlank).isEmpty = true
  · rw [if_pos hs, ← List.nil_append (r.dropWhile isBlank), head_prefix_append_iff hh] at h
    · rwa [List.isEmpty_iff.1 hs]
    · intro c hc
      exact hr c ((List.dropWhile_sublist _).mem (List.mem_of_mem_head? hc))
  · rw [if_neg hs, head_prefix_append_iff hh fun c hc => hr c (List.mem_of_mem_head? hc)] at h
    exact h

lemma begins_append {head : String} (hh : IsHead head) {s : List Char} (h : Begins head s)
    (r : List Char) : Begins head (s ++ r) := by
  unfold Begins dropBlanks at h ⊢
  have hs : ¬(s.dropWhile isBlank).isEmpty = true := by
    intro hs
    rw [List.isEmpty_iff.1 hs, List.map_nil, List.prefix_nil, List.map_eq_nil_iff] at h
    exact hh.ne_nil h
  rw [List.dropWhile_append, if_neg hs, List.map_append]
  exact h.trans (List.prefix_append _ _)

lemma words_dropBlanks (s : List Char) : words (dropBlanks s) = words s := by
  induction s with
  | nil => rfl
  | cons c s ih =>
    by_cases hc : isBlank c
    · rw [words_eq_runs (c :: s), runs_cons_sep hc, ← words_eq_runs, ← ih]
      simp [dropBlanks, hc]
    · simp [dropBlanks, hc]

/-- A text and its collapsed form have the first word in common. -/
lemma exists_first_word (s : List Char) :
    ∃ w r r', dropBlanks s = w ++ r ∧ collapse s = w ++ r' ∧
      (∀ c ∈ r.head?, isBlank c = true) ∧ ∀ c ∈ r'.head?, isBlank c = true := by
  have hcol : collapse s = [' '].intercalate (words (dropBlanks s)) := by
    rw [words_dropBlanks]
    rfl
  rw [hcol]
  have hhead : ∀ c ∈ (dropBlanks s).head?, isBlank c = false := by
    intro c hc
    have := List.head?_dropWhile_not isBlank s
    rw [dropBlanks] at hc
    rw [hc] at this
    simpa using this
  generalize dropBlanks s = d at hhead
  induction d using separated_induction (p := isBlank) with
  | free w hw =>
    refine ⟨w, [], [], by simp, ?_, by simp, by simp⟩
    by_cases hne : w = []
    · subst hne; rfl
    · rw [words_eq_runs, runs_of_free hne hw]
      simp
  | sep w c s hw hc _ =>
    have hne : w ≠ [] := by
      rintro rfl
      have := hhead c (by simp)
      rw [hc] at this
      cases this
    rw [words_eq_runs, runs_append_sep hc, runs_of_free hne hw, List.singleton_append]
    refine ⟨w, c :: s, ?_⟩
    cases hrs : runs isBlank s with
    | nil => exact ⟨[], rfl, by simp, by simp [hc], by simp⟩
    | cons v vs =>
      refine ⟨' ' :: [' '].intercalate (v :: vs), rfl, ?_, by simp [hc], ?_⟩
      · rw [List.intercalate_cons_cons, List.append_assoc, List.singleton_append]
      · intro c hc
        obtain rfl : ' ' = c := by simpa using hc
        decide

/-- **Heads survive normalisation.** -/
theorem startsWithAny_ofSql_iff {heads : List String} (hh : ∀ head ∈ heads, IsHead head)
    (sql : String) :
    (Statement.ofSql sql).startsWithAny heads = true ↔
      ∃ head ∈ heads, Begins head sql.toList := by
  unfold Statement.startsWithAny
  rw [List.any_eq_true]
  refine exists_congr fun head => and_congr_right fun hm => ?_
  have hd := hh head hm
  obtain ⟨w, r, r', hw, hw', hr, hr'⟩ := exists_first_word sql.toList
  have hnot : ∀ {r : List Char}, (∀ c ∈ r.head?, isBlank c = true) →
      ∀ c ∈ r.head?, isWordChar c = false :=
    fun h c hc => not_word_of_blank (h c hc)
  rw [Statement.toList_text_ofSql, List.isPrefixOf_iff_prefix,
    prefix_lowered_iff (lowered_lower _) hd.ascii hd.last, hw',
    head_prefix_append_iff hd (hnot hr'), Begins, hw, head_prefix_append_iff hd (hnot hr)]

lemma isHead_of_isRead {head : String} (h : head ∈ ["select", "with"]) : IsHead head :=
  isHead_of_mem (List.mem_append_left ["insert", "update", "delete"] h)

lemma isHead_of_isWrite {head : String} (h : head ∈ ["insert", "update", "delete"]) :
    IsHead head :=
  isHead_of_mem (List.mem_append_right ["select", "with"] h)

lemma isRead_ofSql_iff (sql : String) :
    (Statement.ofSql sql).isRead = true ↔ ∃ head ∈ ["select", "with"], Begins head sql.toList :=
  startsWithAny_ofSql_iff (fun _ h => isHead_of_isRead h) sql

lemma isWrite_ofSql_iff (sql : String) :
    (Statement.ofSql sql).isWrite = true ↔
      ∃ head ∈ ["insert", "update", "delete"], Begins head sql.toList :=
  startsWithAny_ofSql_iff (fun _ h => isHead_of_isWrite h) sql

end QueryGuard.Proofs.StatementHead
