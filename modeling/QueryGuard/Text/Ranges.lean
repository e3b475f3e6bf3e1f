/-!
Sets of characters given as tables: ranges of code points in increasing order, both ends
included.
-/

namespace QueryGuard.Text

/-- Membership in increasing ranges; the search ends at the first range above the point. -/
def inRanges (n : Nat) : List (Nat × Nat) → Bool
  | [] => false
  | (lo, hi) :: rest => if n < lo then false else decide (n ≤ hi) || inRanges n rest

theorem exists_of_inRanges {n : Nat} {t : List (Nat × Nat)} (h : inRanges n t = true) :
    ∃ r ∈ t, r.1 ≤ n ∧ n ≤ r.2 := by
  induction t with
  | nil => simp [inRanges] at h
  | cons r t ih =>
    obtain ⟨lo, hi⟩ := r
    simp only [inRanges] at h
    split at h
    · cases h
    · rw [Bool.or_eq_true, decide_eq_true_eq] at h
      rcases h with h | h
      · exact ⟨(lo, hi), by simp, by simp; omega, h⟩
      · obtain ⟨r, hr, hn⟩ := ih h
        exact ⟨r, by simp [hr], hn⟩

end QueryGuard.Text
