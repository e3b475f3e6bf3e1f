import QueryGuard.Outline.Clause
import QueryGuard.Proofs.StatementHead

/-!
The names behind a keyword, read part by part.

A part of a text in which the keyword does not occur gives no name, as long as the sign behind it
is no letter of the keyword. A part that consists of the keyword, blanks and a name gives that name,
as long as the name does not go on behind it.
-/

namespace QueryGuard.Proofs.ClauseNames

open Text TextRuns LowerImage StatementHead Clause

/-! ### Reading part by part -/

section ReadAll

variable {α : Type} {m : List Char → Option (α × List Char)} {u r : List Char}

/-- What can only be read behind `w` is not read where no `w` begins. -/
lemma readAll_append_of_free {w : List Char} (hm : ∀ s, ¬w <+: s → m s = none)
    (hu : ¬w <:+: u) (hr : ∀ c ∈ r.head?, c ∉ w) : readAll m (u ++ r) = readAll m r := by
  induction u with
  | nil => rfl
  | cons c u ih =>
    rw [List.infix_cons_iff, not_or] at hu
    have hnone : m (c :: u ++ r) = none := hm _ fun h => hu.1 ((prefix_append_iff hr).1 h)
    rw [List.cons_append] at hnone ⊢
    rw [readAll_cons_of_none hnone]
    exact ih hu.2

/-- What was read is passed over. -/
lemma readAll_append_of_some {a : α} (hu : u ≠ []) (h : m (u ++ r) = some (a, r)) :
    readAll m (u ++ r) = a :: readAll m r := by
  obtain ⟨c, u, rfl⟩ := List.exists_cons_of_ne_nil hu
  rw [List.cons_append] at h ⊢
  rw [readAll_cons_of_some h, List.length_append, Nat.add_sub_cancel, List.drop_left]

end ReadAll

/-! ### Names -/

lemma toNat_lt_of_isDottedChar {c : Char} (h : isDottedChar c = true) : c.toNat < 0x80 := by
  simp only [isDottedChar, isNameChar, Bool.or_eq_true, beq_iff_eq] at h
  obtain ((hlower | hdigit) | rfl) | rfl := h
  · exact toNat_lt_of_isLower hlower
  · exact toNat_lt_of_isDigit hdigit
  · decide
  · decide

lemma not_isBlank_of_isDottedChar {c : Char} (h : isDottedChar c = true) : isBlank c = false :=
  ascii_induction (motive := fun c => isDottedChar c = true → isBlank c = false)
    (by decide +kernel) (toNat_lt_of_isDottedChar h) h

variable {keyword : String} {s u r : List Char}

lemma named?_eq_none (h : ¬keyword.toList <+: s) : named? keyword s = none := by
  have hnone : keyword.toList.isPrefixOf? s = none := by
    rw [Option.eq_none_iff_forall_ne_some]
    intro rest hrest
    rw [List.isPrefixOf?_eq_some_iff_append_eq] at hrest
    exact h ⟨rest, hrest⟩
  rw [named?, after?, hnone]
  rfl

/-- A part without the keyword gives no name. -/
lemma namesAfter_append_of_free (hu : ¬keyword.toList <:+: u)
    (hr : ∀ c ∈ r.head?, c ∉ keyword.toList) :
    namesAfter keyword (u ++ r) = namesAfter keyword r :=
  readAll_append_of_free (fun _ => named?_eq_none) hu hr

section Space

variable (hspace : ' ' ∉ keyword.toList)
include hspace

lemma namesAfter_space (hne : keyword.toList ≠ []) :
    namesAfter keyword (' ' :: r) = namesAfter keyword r := by
  refine readAll_cons_of_none (named?_eq_none fun h => ?_)
  obtain ⟨c, w, hk⟩ := List.exists_cons_of_ne_nil hne
  rw [hk, List.cons_prefix_cons] at h
  rw [hk, h.1] at hspace
  exact hspace List.mem_cons_self

/-- Up to a space, and on behind it. -/
lemma namesAfter_append_space (hu : ¬keyword.toList <:+: u) :
    namesAfter keyword (u ++ ' ' :: r) = namesAfter keyword r := by
  have hne : keyword.toList ≠ [] := by
    intro h
    rw [h] at hu
    exact hu List.nil_infix
  rw [namesAfter_append_of_free hu (by simpa using hspace), namesAfter_space hspace hne]

end Space

section Name

variable {blanks name : List Char} (hne : blanks ≠ []) (hblank : ∀ c ∈ blanks, isBlank c = true)
  (hname : name ≠ []) (hdotted : ∀ c ∈ name, isDottedChar c = true)
  (hr : ∀ c ∈ r.head?, isDottedChar c = false)
include hne hblank hname hdotted hr

/-- The keyword, blanks and a name give that name. -/
lemma named?_append : named? keyword (keyword.toList ++ blanks ++ name ++ r) = some (name, r) := by
  have hhead : ∀ c ∈ (name ++ r).head?, isBlank c = false := by
    intro c hc
    rw [List.head?_append_of_ne_nil _ hname] at hc
    exact not_isBlank_of_isDottedChar (hdotted c (List.mem_of_mem_head? hc))
  have hkeyword : keyword.toList.isPrefixOf? (keyword.toList ++ blanks ++ name ++ r) =
      some (blanks ++ (name ++ r)) := by
    rw [List.isPrefixOf?_eq_some_iff_append_eq]
    simp
  rw [named?, after?, hkeyword, Option.bind_some, blanks?_append hne hblank hhead,
    Option.bind_some, run?_append hname hdotted hr]

lemma namesAfter_name :
    namesAfter keyword (keyword.toList ++ blanks ++ name ++ r) = name :: namesAfter keyword r :=
  readAll_append_of_some (by simp [hname]) (named?_append hne hblank hname hdotted hr)

end Name

/-- A name without dots is its own last segment. -/
lemma lastSegment_of_free {name : List Char} (h : '.' ∉ name) : lastSegment name = name := by
  have hfree : ∀ c ∈ name, (c == '.') = false := by
    intro c hc
    rw [beq_eq_false_iff_ne]
    rintro rfl
    exact h hc
  rw [lastSegment, splitWhere_of_free hfree]
  rfl

end QueryGuard.Proofs.ClauseNames
