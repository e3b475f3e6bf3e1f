import Mathlib
import QueryGuard.Render.Table

/-!
The lines of a table and their length.

A cell that is shown has at most forty characters, and so has a name. The name of a column has no
more characters than bytes, so the bytes give it room, and rows only widen a column. So every text
fits its column, is padded to the width, and all lines are as long as the rule between the head
and the rows.
-/

namespace QueryGuard.Proofs.AlignedTable

open Render

/-! ### Texts and widths -/

lemma length_cut (s : List Char) : (cut s).length = min s.length maxCell := by
  have hpoints : "...".toList.length = 3 := rfl
  unfold cut maxCell
  split_ifs with h
  · rw [List.length_append, List.length_take, hpoints]
    omega
  · omega

lemma length_pad {w : Nat} {s : List Char} (h : s.length ≤ w) : (pad w s).length = w := by
  rw [pad, List.length_append, List.length_replicate]
  omega

lemma length_le_utf8ByteSize (s : String) : s.toList.length ≤ s.utf8ByteSize := by
  rw [← String.utf8Len_toList]
  generalize s.toList = cs
  induction cs with
  | nil => exact Nat.zero_le _
  | cons c cs ih =>
    have hc := Char.utf8Size_pos c
    rw [String.utf8Len_cons, List.length_cons]
    omega

lemma length_intercalate (separator : List Char) (xs : List (List Char)) :
    (separator.intercalate xs).length =
      (xs.map List.length).sum + separator.length * (xs.length - 1) := by
  induction xs with
  | nil => rfl
  | cons x xs ih =>
    cases xs with
    | nil => simp
    | cons y ys =>
      rw [List.intercalate_cons_cons, List.length_append, List.length_append, ih]
      simp only [List.map_cons, List.sum_cons, List.length_cons, Nat.add_sub_cancel]
      ring

/-! ### Columns -/

/-- Texts of which none is longer than its column is wide; there is one for each column. -/
def Fit (texts : List (List Char)) (ws : List Nat) : Prop :=
  List.Forall₂ (fun t w => t.length ≤ w) texts ws

variable {ws : List Nat} {texts row : List (List Char)} {rows : List (List (List Char))}

lemma Fit.map_length_pad (h : Fit texts ws) :
    (List.zipWith (fun t w => pad w t) texts ws).map List.length = ws := by
  induction h with
  | nil => rfl
  | cons hw _ ih => rw [List.zipWith_cons_cons, List.map_cons, length_pad hw, ih]

/-- Texts that fit are, when padded, as long together as the columns are wide. -/
lemma Fit.length_row (h : Fit texts ws) (separator : List Char) :
    (Render.row separator ws texts).length = ws.sum + separator.length * (ws.length - 1) := by
  rw [Render.row, length_intercalate, h.map_length_pad, List.length_zipWith, h.length_eq,
    Nat.min_self]

lemma length_rule (separator : List Char) (sign : Char) (margin : Nat) (ws : List Nat) :
    (separator.intercalate (ws.map fun w => List.replicate (w + margin) sign)).length =
      ws.sum + margin * ws.length + separator.length * (ws.length - 1) := by
  have hsum : ((ws.map fun w => List.replicate (w + margin) sign).map List.length).sum =
      ws.sum + margin * ws.length := by
    induction ws with
    | nil => rfl
    | cons w ws ih =>
      simp only [List.map_cons, List.sum_cons, ih, List.length_replicate, List.length_cons]
      ring
  rw [length_intercalate, hsum, List.length_map]

lemma length_widen (ws : List Nat) (row : List (List Char)) :
    (widen ws row).length = ws.length := by
  induction ws generalizing row with
  | nil => cases row <;> rfl
  | cons w ws ih =>
    cases row with
    | nil => rfl
    | cons c cs => rw [widen, List.length_cons, ih, List.length_cons]

/-- A row that has widened the columns fits them. -/
lemma fit_widen_self (h : row.length = ws.length) : Fit row (widen ws row) := by
  induction ws generalizing row with
  | nil =>
    rw [List.length_eq_zero_iff.1 h]
    exact .nil
  | cons w ws ih =>
    cases row with
    | nil => exact absurd h (by simp)
    | cons c cs => exact .cons (Nat.le_max_right _ _) (ih (Nat.succ.inj h))

/-- What fits still does when a row widens the columns. -/
lemma Fit.widen (h : Fit texts ws) (row : List (List Char)) : Fit texts (Render.widen ws row) := by
  induction h generalizing row with
  | nil => cases row <;> exact .nil
  | cons hw h ih =>
    cases row with
    | nil => exact .cons hw h
    | cons c cs => exact .cons (Nat.le_trans hw (Nat.le_max_left _ _)) (ih cs)

lemma widen_le {bound : Nat} (hws : ∀ w ∈ ws, w ≤ bound) (hrow : ∀ c ∈ row, c.length ≤ bound) :
    ∀ w ∈ widen ws row, w ≤ bound := by
  induction ws generalizing row with
  | nil => cases row <;> exact hws
  | cons w ws ih =>
    cases row with
    | nil => exact hws
    | cons c cs =>
      rw [List.forall_mem_cons] at hws hrow
      rw [Render.widen, List.forall_mem_cons]
      exact ⟨Nat.max_le.2 ⟨hws.1, hrow.1⟩, ih hws.2 hrow.2⟩

/-- What fits at first fits in the end. -/
lemma Fit.foldl_widen (h : Fit texts ws) (rows : List (List (List Char))) :
    Fit texts (rows.foldl Render.widen ws) := by
  induction rows generalizing ws with
  | nil => exact h
  | cons row rows ih => exact ih (h.widen row)

lemma fit_foldl_widen (hrows : ∀ row ∈ rows, row.length = ws.length) :
    ∀ row ∈ rows, Fit row (rows.foldl widen ws) := by
  induction rows generalizing ws with
  | nil => exact fun _ h => nomatch h
  | cons first rows ih =>
    rw [List.forall_mem_cons] at hrows ⊢
    refine ⟨(fit_widen_self hrows.1).foldl_widen rows, ih ?_⟩
    rw [length_widen]
    exact hrows.2

lemma foldl_widen_le {bound : Nat} (hws : ∀ w ∈ ws, w ≤ bound)
    (hrows : ∀ row ∈ rows, ∀ c ∈ row, c.length ≤ bound) :
    ∀ w ∈ rows.foldl widen ws, w ≤ bound := by
  induction rows generalizing ws with
  | nil => exact hws
  | cons first rows ih =>
    rw [List.forall_mem_cons] at hrows
    exact ih (widen_le hws hrows.1) hrows.2

/-! ### Tables -/

variable {r : ResultSet}

/-- The names, as they are shown. -/
def head (r : ResultSet) : List (List Char) := r.columns.map fun c => cut c.toList

lemma fit_head (r : ResultSet) : Fit (head r) (widths r) := by
  refine Fit.foldl_widen ?_ _
  rw [Fit, head, List.forall₂_map_left_iff, List.forall₂_map_right_iff, List.forall₂_same]
  intro c _
  have hbytes := length_le_utf8ByteSize c
  rw [length_cut]
  omega

lemma fit_cells (hfull : r.IsFull) : ∀ row ∈ cells r, Fit row (widths r) := by
  refine fit_foldl_widen fun row hrow => ?_
  obtain ⟨values, hvalues, rfl⟩ := List.mem_map.1 hrow
  rw [List.length_map, List.length_map, hfull values hvalues]

lemma widths_le (r : ResultSet) : ∀ w ∈ widths r, w ≤ maxCell := by
  refine foldl_widen_le ?_ ?_
  · intro w hw
    obtain ⟨c, -, rfl⟩ := List.mem_map.1 hw
    exact Nat.min_le_right _ _
  · intro row hrow c hc
    obtain ⟨values, -, rfl⟩ := List.mem_map.1 hrow
    obtain ⟨v, -, rfl⟩ := List.mem_map.1 hc
    rw [length_cut]
    exact Nat.min_le_right _ _

lemma length_widths (r : ResultSet) : (widths r).length = r.columns.length := by
  rw [← (fit_head r).length_eq, head, List.length_map]

/-- `text` is made of `count` lines with `width` characters each. -/
structure IsBlock (text : String) (lines : List (List Char)) (count width : Nat) : Prop where
  text_eq : text = String.ofList (['\n'].intercalate lines)
  length_lines : lines.length = count
  length_line : ∀ line ∈ lines, line.length = width

lemma table_eq (hcolumns : r.columns ≠ []) (style : TableStyle) :
    table style r = String.ofList (['\n'].intercalate (tableLines style r)) := by
  rw [table, if_neg (by rwa [List.isEmpty_iff])]

/-- Names or cells between bars. -/
lemma length_bar {texts : List (List Char)} (h : Fit texts (widths r)) :
    (Render.row bar (widths r) texts).length = (widths r).sum + 3 * (r.columns.length - 1) := by
  rw [h.length_row, length_widths]
  rfl

lemma isBlock_simple (hcolumns : r.columns ≠ []) (hfull : r.IsFull) :
    IsBlock (table .simple r) (tableLines .simple r) (r.rows.length + 2)
      ((widths r).sum + 3 * (r.columns.length - 1)) := by
  refine ⟨table_eq hcolumns .simple, ?_, ?_⟩
  · simp only [tableLines, simpleLines, List.length_cons, List.length_map, cells]
  · have hrule := length_rule "-+-".toList '-' 0 (widths r)
    rw [length_widths] at hrule
    simp only [tableLines, simpleLines, List.forall_mem_cons, List.forall_mem_map]
    refine ⟨length_bar (fit_head r), ?_, fun row hrow => length_bar (fit_cells hfull row hrow)⟩
    simpa using hrule

lemma isBlock_grid (hcolumns : r.columns ≠ []) (hfull : r.IsFull) :
    IsBlock (table .grid r) (tableLines .grid r) (r.rows.length + 4)
      ((widths r).sum + 3 * (r.columns.length - 1) + 4) := by
  refine ⟨table_eq hcolumns .grid, ?_, ?_⟩
  · simp only [tableLines, gridLines, List.length_cons, List.length_append, List.length_map,
      List.length_nil, cells]
  · have hpos : 0 < r.columns.length := List.length_pos_iff.2 hcolumns
    have hborder : ('+' :: (['+'].intercalate ((widths r).map fun w =>
        List.replicate (w + 2) '-') ++ ['+'])).length =
          (widths r).sum + 3 * (r.columns.length - 1) + 4 := by
      rw [List.length_cons, List.length_append, length_rule, length_widths]
      simp only [List.length_cons, List.length_nil]
      omega
    have hboxed : ∀ texts, Fit texts (widths r) →
        ("| ".toList ++ Render.row bar (widths r) texts ++ " |".toList).length =
          (widths r).sum + 3 * (r.columns.length - 1) + 4 := by
      intro texts h
      have hends : "| ".toList.length = 2 ∧ " |".toList.length = 2 := ⟨rfl, rfl⟩
      rw [List.length_append, List.length_append, length_bar h]
      omega
    simp only [tableLines, gridLines, List.forall_mem_cons, List.forall_mem_append,
      List.forall_mem_map]
    exact ⟨hborder, hboxed _ (fit_head r), hborder,
      fun row hrow => hboxed row (fit_cells hfull row hrow), hborder, fun _ h => nomatch h⟩

/-- **Tables are rectangular.** The lines of a table all have the same number of characters: those
of the columns, three between any two of them, and in a frame two more at each end. There is a
line for every row, one for the names, and the rules. A column has room for its name and for all
its cells, and is no wider than forty characters. -/
theorem table_rectangular (hcolumns : r.columns ≠ []) (hfull : r.IsFull) :
    IsBlock (table .simple r) (tableLines .simple r) (r.rows.length + 2)
      ((widths r).sum + 3 * (r.columns.length - 1)) ∧
    IsBlock (table .grid r) (tableLines .grid r) (r.rows.length + 4)
      ((widths r).sum + 3 * (r.columns.length - 1) + 4) ∧
    Fit (head r) (widths r) ∧ (∀ row ∈ cells r, Fit row (widths r)) ∧
    ∀ w ∈ widths r, w ≤ maxCell :=
  ⟨isBlock_simple hcolumns hfull, isBlock_grid hcolumns hfull, fit_head r, fit_cells hfull,
    widths_le r⟩

/-- A name with more bytes than characters, a cell that is cut and a cell without text. -/
def sizes : ResultSet := .ofRows ["Größe", "note"]
  [[.int 7, .str "one of the notes that have to be cut to fit"], [.null, .str ""]]

theorem table_rectangular_sizes :
    sizes.columns ≠ [] ∧ sizes.IsFull ∧ widths sizes = [7, 40] ∧
    (tableLines .grid sizes).length = 6 ∧ ∀ line ∈ tableLines .grid sizes, line.length = 54 := by
  have hcolumns : sizes.columns ≠ [] := by decide
  have hfull : sizes.IsFull := by decide
  have hwidths : widths sizes = [7, 40] := by decide +kernel
  obtain ⟨-, hgrid, -⟩ := table_rectangular hcolumns hfull
  rw [hwidths] at hgrid
  exact ⟨hcolumns, hfull, hwidths, hgrid.length_lines, hgrid.length_line⟩

end QueryGuard.Proofs.AlignedTable
