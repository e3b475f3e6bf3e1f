import QueryGuard.Proofs.TextRuns
import QueryGuard.Risk

/-!
Patterns with a leading wildcard.

The search behind each LIKE skips the blanks and looks for a percent sign in front of either quote,
on one line. So it finds a pattern exactly when the text can be cut into LIKE, blanks and such a
pattern, with anything before and behind.
-/

namespace QueryGuard.Proofs.WildcardPattern

open Text TextRuns Risk

/-- Somewhere stands LIKE, then blanks, then a pattern in quotes that begins and ends with a percent
sign on one line. -/
def LikesWildcard (s : List Char) : Prop :=
  ∃ before gap inner behind,
    s = before ++ "like".toList ++ gap ++ "'%".toList ++ inner ++ "%'".toList ++ behind ∧
      gap ≠ [] ∧ (∀ c ∈ gap, isBlank c = true) ∧ '\n' ∉ inner

lemma mem_remainders_iff {w : List Char} (hw : w ≠ []) {s r : List Char} :
    r ∈ remainders w s ↔ ∃ a, s = a ++ w ++ r := by
  induction s with
  | nil => simp [remainders, hw]
  | cons c s ih =>
    rw [remainders, List.mem_append, Option.mem_toList, List.isPrefixOf?_eq_some_iff_append_eq, ih]
    constructor
    · rintro (h | ⟨a, rfl⟩)
      · exact ⟨[], h.symm⟩
      · exact ⟨c :: a, rfl⟩
    · rintro ⟨a, h⟩
      cases a with
      | nil => exact .inl h.symm
      | cons d a =>
        obtain ⟨-, h⟩ := List.cons.inj h
        exact .inr ⟨a, h⟩

lemma isWildcardPattern_iff (s : List Char) :
    isWildcardPattern s = true ↔
      ∃ inner behind, s = "'%".toList ++ inner ++ "%'".toList ++ behind ∧ '\n' ∉ inner := by
  have hline : ∀ c ∈ "%'".toList, (c != '\n') = true := List.all_eq_true.1 (by decide)
  unfold isWildcardPattern
  constructor
  · intro h
    cases hp : "'%".toList.isPrefixOf? s with
    | none =>
      rw [hp] at h
      cases h
    | some rest =>
      rw [hp] at h
      obtain ⟨inner, line, h⟩ := (contains_eq_true_iff _ _).1 h
      rw [List.isPrefixOf?_eq_some_iff_append_eq] at hp
      have hinner : '\n' ∉ inner := by
        intro hm
        have hm' : '\n' ∈ rest.takeWhile (· != '\n') := by
          rw [← h]
          simp [hm]
        have hne := List.all_eq_true.1 List.all_takeWhile _ hm'
        revert hne
        decide
      refine ⟨inner, line ++ rest.dropWhile (· != '\n'), ?_, hinner⟩
      have hrest : inner ++ ("%'".toList ++ (line ++ rest.dropWhile (· != '\n'))) = rest := by
        rw [← List.append_assoc, ← List.append_assoc, h, List.takeWhile_append_dropWhile]
      rw [← hp, List.append_assoc, List.append_assoc, hrest]
  · rintro ⟨inner, behind, rfl, hinner⟩
    have hp : "'%".toList.isPrefixOf? ("'%".toList ++ inner ++ "%'".toList ++ behind) =
        some (inner ++ "%'".toList ++ behind) := by
      rw [List.isPrefixOf?_eq_some_iff_append_eq]
      simp
    have hfree : ∀ c ∈ inner, (c != '\n') = true := by
      intro c hc
      rw [bne_iff_ne]
      rintro rfl
      exact hinner hc
    rw [hp]
    simp only
    rw [contains_eq_true_iff, List.append_assoc, List.takeWhile_append_of_pos hfree,
      List.takeWhile_append_of_pos hline]
    exact ⟨inner, behind.takeWhile (· != '\n'), by simp⟩

/-- Nothing is lost by skipping all the blanks, for a pattern begins with none. -/
lemma skipped_iff (s : List Char) :
    ((blanks? s).map isWildcardPattern).getD false = true ↔
      ∃ gap rest, s = gap ++ rest ∧ gap ≠ [] ∧ (∀ c ∈ gap, isBlank c = true) ∧
        isWildcardPattern rest = true := by
  constructor
  · intro h
    cases s with
    | nil => simp [blanks?] at h
    | cons c s =>
      by_cases hc : isBlank c = true
      · refine ⟨c :: s.takeWhile isBlank, dropBlanks s, ?_, List.cons_ne_nil _ _, ?_,
          by simpa [blanks?, hc] using h⟩
        · rw [List.cons_append, dropBlanks, List.takeWhile_append_dropWhile]
        · intro d hd
          rcases List.mem_cons.1 hd with rfl | hd
          · exact hc
          · exact List.all_eq_true.1 List.all_takeWhile _ hd
      · simp [blanks?, hc] at h
  · rintro ⟨gap, rest, rfl, hne, hgap, hrest⟩
    obtain ⟨c, gap, rfl⟩ := List.exists_cons_of_ne_nil hne
    have hquote : dropBlanks rest = rest := by
      obtain ⟨inner, behind, rfl, -⟩ := (isWildcardPattern_iff rest).1 hrest
      exact List.dropWhile_cons_of_neg (by decide)
    have hskip : dropBlanks (gap ++ rest) = rest := by
      rw [dropBlanks, List.dropWhile_append_of_pos fun d hd => hgap d (by simp [hd])]
      exact hquote
    simp [blanks?, hgap c (by simp), hskip, hrest]

/-- **The search finds the patterns.** -/
theorem hasLeadingWildcard_iff (s : Statement) :
    hasLeadingWildcard s = true ↔ LikesWildcard s.text.toList := by
  unfold hasLeadingWildcard
  rw [List.any_eq_true]
  simp only [skipped_iff, mem_remainders_iff (w := "like".toList) (by decide)]
  constructor
  · rintro ⟨-, ⟨before, hs⟩, gap, rest, rfl, hne, hgap, hrest⟩
    obtain ⟨inner, behind, rfl, hinner⟩ := (isWildcardPattern_iff rest).1 hrest
    exact ⟨before, gap, inner, behind, by simp [hs], hne, hgap, hinner⟩
  · rintro ⟨before, gap, inner, behind, hs, hne, hgap, hinner⟩
    refine ⟨_, ⟨before, ?_⟩, gap, "'%".toList ++ inner ++ "%'".toList ++ behind, rfl, hne, hgap,
      (isWildcardPattern_iff _).2 ⟨inner, behind, rfl, hinner⟩⟩
    simp [hs]

end QueryGuard.Proofs.WildcardPattern
