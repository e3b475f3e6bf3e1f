import Mathlib
import QueryGuard.Proofs.JsonFields
import QueryGuard.Render.Basic

/-!
The two ways to get at a cell: by row and name, and through the row as an object.

The first goes to the first column of a name, and the object keeps the last value for it. So they
agree on each name that stands over one cell of the row at most. The object has a field for every
name that stands over a cell, whatever the length of the row, and one for every column just in
case no name is given twice.
-/

namespace QueryGuard.Proofs.KeyedRows

open JsonFields LogLines

variable {r : ResultSet} {row : List Json} {i : Nat} {c : String}

/-! ### Cells under names -/

lemma map_fst_zip (columns : List String) (row : List Json) :
    (columns.zip row).map Prod.fst = columns.take row.length := by
  induction columns generalizing row with
  | nil => rw [List.zip_nil_left, List.take_nil, List.map_nil]
  | cons n columns ih =>
    cases row with
    | nil => rfl
    | cons v row =>
      rw [List.zip_cons_cons, List.map_cons, ih, List.length_cons, List.take_succ_cons]

/-- Looking for a name among the columns is looking for it over the cells. -/
lemma lookup_zip (columns : List String) (row : List Json) (c : String) :
    (columns.zip row).lookup c = (columns.findIdx? (· == c)).bind (row[·]?) := by
  induction columns generalizing row with
  | nil => rfl
  | cons n columns ih =>
    cases row with
    | nil =>
      rw [List.zip_nil_right, List.lookup_nil]
      cases List.findIdx? (· == c) (n :: columns) <;> rfl
    | cons v row =>
      rw [List.zip_cons_cons, lookup_cons_eq, ih, List.findIdx?_cons]
      by_cases h : c = n
      · simp [h]
      · have hne : (n == c) = false := beq_false_of_ne (Ne.symm h)
        rw [if_neg h, hne]
        cases List.findIdx? (· == c) columns <;> rfl

lemma value?_eq_lookup (hrow : r.rows[i]? = some row) (c : String) :
    r.value? i c = (r.columns.zip row).lookup c := by
  rw [lookup_zip, ResultSet.value?, ResultSet.columnIndex?, hrow]
  rfl

lemma getElem?_records (hrow : r.rows[i]? = some row) :
    r.records[i]? = some (Json.ofFields (r.columns.zip row)) := by
  rw [ResultSet.records, List.getElem?_map, hrow, Option.map_some]

/-- A name that is there once is found from either end. -/
lemma lookup_reverse_of_count_le {fs : List (String × Json)}
    (h : (fs.map Prod.fst).count c ≤ 1) : fs.reverse.lookup c = fs.lookup c := by
  induction fs with
  | nil => rfl
  | cons f fs ih =>
    obtain ⟨n, v⟩ := f
    rw [List.map_cons, List.count_cons] at h
    rw [List.reverse_cons, List.lookup_append, lookup_cons_eq, lookup_cons_eq, List.lookup_nil]
    by_cases hc : c = n
    · rw [if_pos hc, if_pos hc]
      have hnone : fs.reverse.lookup c = none := by
        rw [← Option.not_isSome_iff_eq_none, isSome_lookup_iff, List.map_reverse,
          List.mem_reverse, ← List.count_pos_iff]
        simp only [hc, beq_self_eq_true, if_true] at h ⊢
        omega
      rw [hnone, Option.none_or]
    · rw [if_neg hc, if_neg hc, Option.or_none]
      exact ih (by omega)

lemma exists_getElem?_of_mem_zip {columns : List String} {v : Json}
    (h : (c, v) ∈ columns.zip row) : ∃ k : Nat, columns[k]? = some c ∧ row[k]? = some v := by
  obtain ⟨k, hk, hcell⟩ := List.getElem_of_mem h
  rw [List.getElem_zip, Prod.mk.injEq] at hcell
  exact ⟨k, List.getElem?_eq_some_iff.2 ⟨_, hcell.1⟩, List.getElem?_eq_some_iff.2 ⟨_, hcell.2⟩⟩

lemma mem_zip_of_getElem? {columns : List String} {v : Json} {k : Nat}
    (hc : columns[k]? = some c) (hv : row[k]? = some v) : (c, v) ∈ columns.zip row := by
  refine List.mem_of_getElem? (i := k) ?_
  rw [List.getElem?_zip_eq_some]
  exact ⟨hc, hv⟩

/-! ### Objects of rows -/

/-- Fields that hold cells of a row under the names of their columns, one for each name that stands
over a cell. -/
structure IsRecord (columns : List String) (row : List Json) (fields : List (String × Json)) :
    Prop where
  increasing : Increasing fields
  mem_names_iff : ∀ c, c ∈ fields.map Prod.fst ↔ c ∈ columns.take row.length
  cell : ∀ c v, fields.lookup c = some v → ∃ k : Nat, columns[k]? = some c ∧ row[k]? = some v

lemma isRecord_ofFields (columns : List String) (row : List Json) :
    IsRecord columns row (Json.ofFields (columns.zip row)) := by
  refine ⟨increasing_ofFields _, fun c => ?_, fun c v hv => ?_⟩
  · rw [mem_names_ofFields_iff, map_fst_zip]
  · rw [lookup_ofFields] at hv
    obtain ⟨before, behind, hsplit, -⟩ := List.lookup_eq_some_iff.1 hv
    refine exists_getElem?_of_mem_zip (List.mem_reverse.1 ?_)
    rw [hsplit]
    simp

lemma lookup_ofFields_zip {columns : List String} (hc : (columns.take row.length).count c ≤ 1) :
    (Json.ofFields (columns.zip row)).lookup c = (columns.zip row).lookup c := by
  rw [lookup_ofFields]
  refine lookup_reverse_of_count_le ?_
  rwa [map_fst_zip]

lemma length_ofFields_zip {columns : List String} (hrow : row.length = columns.length) :
    (Json.ofFields (columns.zip row)).length = columns.length ↔ columns.Nodup := by
  rw [length_ofFields, map_fst_zip, hrow, List.take_length, ← List.dedup_eq_self]
  exact ⟨(List.dedup_sublist columns).eq_of_length, congrArg List.length⟩

/-- **Rows as objects.** The object of a row gives for a name what is found by row and name, if the
name stands over one cell of the row at most. It has one field for each name over a cell, and no
cell that is not in the row under that name. If the row has a cell for each column, there is a
field for every column just in case no name is given twice, and then every cell is in its field.
The rendering as JSON is the list of these objects. -/
theorem records_agree (r : ResultSet) :
    Render.result r .json = .ok (Json.pretty (.arr (r.records.map .obj))) ∧
    ∀ i row, r.rows[i]? = some row → ∃ fields, r.records[i]? = some fields ∧
      IsRecord r.columns row fields ∧
      (∀ c, (r.columns.take row.length).count c ≤ 1 → fields.lookup c = r.value? i c) ∧
      (row.length = r.columns.length →
        (fields.length = r.columns.length ↔ r.columns.Nodup) ∧
        (r.columns.Nodup → ∀ (k : Nat) c v, r.columns[k]? = some c → row[k]? = some v →
          fields.lookup c = some v)) := by
  refine ⟨rfl, fun i row hrow => ⟨_, getElem?_records hrow, isRecord_ofFields _ _, ?_, ?_⟩⟩
  · intro c hc
    rw [lookup_ofFields_zip hc, value?_eq_lookup hrow]
  · intro hfull
    refine ⟨length_ofFields_zip hfull, fun hnodup k c v hc hv => ?_⟩
    have hcount : (r.columns.take row.length).count c ≤ 1 :=
      List.nodup_iff_count_le_one.1 (hnodup.sublist (List.take_sublist _ _)) c
    have hnames : ((r.columns.zip row).map Prod.fst).Nodup := by
      rw [map_fst_zip]
      exact hnodup.sublist (List.take_sublist _ _)
    rw [lookup_ofFields_zip hcount]
    exact lookup_eq_some_of_mem hnames (mem_zip_of_getElem? hc hv)

/-- A row with a cell for each column. -/
def whole : ResultSet := .ofRows ["id", "name"] [[.int 1, .str "Ada"]]

/-- A row that ends before its last column, which repeats a name. -/
def short : ResultSet := .ofRows ["id", "name", "id"] [[.int 1, .str "Ada"]]

theorem records_agree_short :
    (∃ fields, short.records[0]? = some fields ∧ (["id", "name", "id"].take 2).count "id" ≤ 1 ∧
      fields.lookup "id" = short.value? 0 "id") ∧
    (∃ fields, whole.records[0]? = some fields ∧ whole.columns.Nodup ∧ fields.length = 2 ∧
      fields.lookup "name" = some (.str "Ada")) := by
  have hshort : short.rows[0]? = some [.int 1, .str "Ada"] := rfl
  have hwhole : whole.rows[0]? = some [.int 1, .str "Ada"] := rfl
  have hid : (["id", "name", "id"].take 2).count "id" ≤ 1 := by decide
  have hnames : whole.columns.Nodup := by decide
  obtain ⟨shown, hshown, -, hagree, -⟩ := (records_agree short).2 0 _ hshort
  obtain ⟨fields, hfields, -, -, hfull⟩ := (records_agree whole).2 0 _ hwhole
  obtain ⟨hlength, hcarry⟩ := hfull rfl
  exact ⟨⟨shown, hshown, hid, hagree "id" hid⟩, fields, hfields, hnames, hlength.2 hnames,
    hcarry hnames 1 "name" (.str "Ada") rfl rfl⟩

/-- Two columns of one name, as a join of two tables gives them. -/
def joined : ResultSet := .ofRows ["id", "id"] [[.int 1, .int 2]]

/-- Under a name that is given twice the first cell is found by row and name and the last one in
the object, which has one field for the two columns. -/
theorem repeated_name_parts :
    joined.IsFull ∧ joined.value? 0 "id" = some (.int 1) ∧
      (∃ fields, joined.records[0]? = some fields ∧ fields.lookup "id" = some (.int 2) ∧
        fields.lookup "id" ≠ joined.value? 0 "id" ∧ fields.length ≠ joined.columns.length) := by
  refine ⟨by decide, rfl, [("id", .int 2)], rfl, rfl, ?_, by decide⟩
  intro h
  cases h

end QueryGuard.Proofs.KeyedRows
