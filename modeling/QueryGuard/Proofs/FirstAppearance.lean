import Mathlib.Data.List.Induction
import Mathlib.Data.List.Nodup

/-!
Lists with each item where it first appears.

An item at the end is kept if it has not been there before. Everything else about such lists is
by induction from the end.
-/

namespace QueryGuard.Proofs.FirstAppearance

variable {α : Type} [BEq α] [LawfulBEq α]

lemma eraseDups_concat (xs : List α) (x : α) :
    (xs ++ [x]).eraseDups = if x ∈ xs then xs.eraseDups else xs.eraseDups ++ [x] := by
  rw [List.eraseDups_append]
  by_cases hx : x ∈ xs <;> simp [List.removeAll, List.eraseDups_cons, hx]

lemma eraseDups_sublist (xs : List α) : xs.eraseDups.Sublist xs := by
  induction xs using List.reverseRecOn with
  | nil => exact .refl _
  | append_singleton xs x ih =>
    rw [eraseDups_concat]
    split
    · exact ih.trans (List.sublist_append_left xs [x])
    · exact ih.append (.refl [x])

lemma nodup_eraseDups (xs : List α) : xs.eraseDups.Nodup := by
  induction xs using List.reverseRecOn with
  | nil => exact List.nodup_nil
  | append_singleton xs x ih =>
    rw [eraseDups_concat]
    split
    · exact ih
    · rename_i hx
      refine List.nodup_append'.2 ⟨ih, List.nodup_singleton x, ?_⟩
      simpa using hx

lemma eraseDups_of_nodup {xs : List α} (h : xs.Nodup) : xs.eraseDups = xs := by
  induction xs using List.reverseRecOn with
  | nil => rfl
  | append_singleton xs x ih =>
    obtain ⟨hxs, -, hx⟩ := List.nodup_append'.1 h
    rw [eraseDups_concat, ih hxs, if_neg (by simpa using hx)]

end QueryGuard.Proofs.FirstAppearance
