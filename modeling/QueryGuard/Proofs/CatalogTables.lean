import Mathlib.Data.List.Induction
import QueryGuard.Proofs.NameOrder
import QueryGuard.Schema.Catalog

/-!
The tables that a catalogue has rows of.

The columns of a table may stand anywhere among those of other tables. Row by row, each table has
its columns so far, in order. A table without columns is not known.
-/

namespace QueryGuard.Proofs.CatalogTables

open Catalog NameOrder

/-- The columns of a table, in order. -/
def columnsOf (table : String) (rows : List ColumnRow) : List Column :=
  (rows.filter (·.table = table)).map fun r => ⟨r.column, r.type⟩

/-- What is known of a table with these columns. -/
def known? (columns : List Column) : Option (List Column) :=
  if columns = [] then none else some columns

lemma getD_known? (columns : List Column) : (known? columns).getD [] = columns := by
  unfold known?
  split
  · rename_i h
    exact h.symm
  · rfl

lemma columnsOf_concat_self (rows : List ColumnRow) (r : ColumnRow) :
    columnsOf r.table (rows ++ [r]) = columnsOf r.table rows ++ [⟨r.column, r.type⟩] := by
  simp [columnsOf]

lemma columnsOf_concat_of_ne {table : String} {r : ColumnRow} (h : table ≠ r.table)
    (rows : List ColumnRow) : columnsOf table (rows ++ [r]) = columnsOf table rows := by
  simp [columnsOf, h.symm]

/-- **The tables of a catalogue.** A table has the columns of its rows, in their order, and is known
if there are any. -/
theorem get?_tables (dialect : Dialect) (columns : List ColumnRow) (keys : List KeyRow)
    (table : String) :
    (schema dialect columns keys).tables.get? table = known? (columnsOf table columns) := by
  unfold schema
  dsimp only
  induction columns using List.reverseRecOn with
  | nil => rfl
  | append_singleton columns r ih =>
    rw [List.foldl_concat]
    by_cases ht : table = r.table
    · subst ht
      rw [get?_alter_self, ih, getD_known?, columnsOf_concat_self, known?, if_neg (by simp)]
    · rw [get?_alter_of_ne _ _ _ ht, ih, columnsOf_concat_of_ne ht]

/-! ### Described tables -/

variable {tables : List DescribedTable} {t : DescribedTable}

lemma columnsOf_columnRows (t : DescribedTable) (table : String) :
    columnsOf table t.columnRows =
      if t.name = table then t.columns.map fun c => ⟨c.1, c.2.getD ""⟩ else [] := by
  have htable : ∀ r ∈ t.columnRows, r.table = t.name := by
    intro r hr
    obtain ⟨c, -, rfl⟩ := List.mem_map.1 hr
    rfl
  unfold columnsOf
  split
  · rename_i h
    rw [List.filter_eq_self.2 fun r hr => by simp [htable r hr, h], DescribedTable.columnRows,
      List.map_map]
    rfl
  · rename_i h
    rw [List.filter_eq_nil_iff.2 fun r hr => by simp [htable r hr, h], List.map_nil]

lemma columnsOf_flatMap (table : String) (tables : List DescribedTable) :
    columnsOf table (tables.flatMap DescribedTable.columnRows) =
      tables.flatMap fun t => columnsOf table t.columnRows := by
  unfold columnsOf
  rw [List.filter_flatMap, List.map_flatMap]

/-- **No column is lost.** Of tables that SQLite describes, each under a name of its own, the schema
has the columns in order, without a type where there is none. -/
theorem get?_ofDescribed (dialect : Dialect) (hnames : (tables.map DescribedTable.name).Nodup)
    (ht : t ∈ tables) :
    (ofDescribed dialect tables).tables.get? t.name =
      known? (t.columns.map fun c => ⟨c.1, c.2.getD ""⟩) := by
  have hcolumns : columnsOf t.name (tables.flatMap DescribedTable.columnRows) =
      t.columns.map fun c => ⟨c.1, c.2.getD ""⟩ := by
    obtain ⟨before, behind, rfl⟩ := List.append_of_mem ht
    have hnone : ∀ others : List DescribedTable, (∀ u ∈ others, u.name ≠ t.name) →
        (others.flatMap fun u => columnsOf t.name u.columnRows) = [] := by
      intro others hne
      rw [List.flatMap_eq_nil_iff]
      intro u hu
      rw [columnsOf_columnRows, if_neg (hne u hu)]
    rw [List.map_append, List.map_cons, List.nodup_append, List.nodup_cons] at hnames
    obtain ⟨-, ⟨hbehind, -⟩, hbefore⟩ := hnames
    rw [columnsOf_flatMap, List.flatMap_append, List.flatMap_cons,
      hnone before fun u hu => hbefore _ (List.mem_map_of_mem hu) _ List.mem_cons_self,
      hnone behind fun u hu heq => hbehind (heq ▸ List.mem_map_of_mem hu),
      columnsOf_columnRows, if_pos rfl, List.append_nil, List.nil_append]
  rw [ofDescribed, get?_tables, hcolumns]

end QueryGuard.Proofs.CatalogTables
