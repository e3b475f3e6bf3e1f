import Mathlib
import QueryGuard.Proofs.FirstAppearance
import QueryGuard.Schema.Catalog

/-!
Foreign keys gathered from the rows of a catalogue.

The rows of a key may stand anywhere among the rows of other keys. Row by row, the keys so far are
those of the rows so far: a row of a known key changes that key and no other, and a row of a new one
adds it at the end. So a key has the columns of its own rows, each where it first appears. Whether
two columns at the same place belong together hangs on the rows that do not name the column they
refer to: these must come last.
-/

namespace QueryGuard.Proofs.GroupedKeys

open Catalog FirstAppearance

/-- The rows with a table on either side. -/
def named (rows : List KeyRow) : List KeyRow :=
  rows.filter fun r => r.table ≠ "" ∧ r.referredTable ≠ ""

/-- The rows of one key, in order. -/
def rowsOf (id : String × String) (rows : List KeyRow) : List KeyRow :=
  rows.filter fun r => r.identity = id

/-- The keys that rows belong to, in the order in which they first appear. -/
def identities (rows : List KeyRow) : List (String × String) :=
  (rows.map KeyRow.identity).eraseDups

/-- The key that rows make, if all of them are its own. -/
structure IsKeyOf (rows : List KeyRow) (k : ForeignKey) : Prop where
  first : ∃ r rest, rows = r :: rest ∧ k.table = r.table ∧ k.referredTable = r.referredTable
  columns : k.columns = (rows.map KeyRow.column).eraseDups
  referredColumns :
    k.referredColumns = ((rows.map KeyRow.referredColumn).filter (· ≠ "")).eraseDups

/-- What stands at the same place among the columns of a key and among those it refers to is from
the row at that place. -/
def Paired (rows : List KeyRow) (k : ForeignKey) : Prop :=
  ∀ (n : Nat) c d, k.columns[n]? = some c → k.referredColumns[n]? = some d →
    ∃ r, rows[n]? = some r ∧ r.column = c ∧ r.referredColumn = d

/-! ### One more row -/

lemma addOnce_eraseDups (x : String) (xs : List String) :
    addOnce x xs.eraseDups = (xs ++ [x]).eraseDups := by
  simp only [addOnce, eraseDups_concat, List.mem_eraseDups]

lemma isKeyOf_singleton (r : KeyRow) :
    IsKeyOf [r] (addPair ⟨r.table, [], r.referredTable, []⟩ r) := by
  refine ⟨⟨r, [], rfl, rfl, rfl⟩, rfl, ?_⟩
  by_cases hr : r.referredColumn = "" <;> simp [addPair, addOnce, List.eraseDups_cons, hr]

lemma IsKeyOf.addPair {rows : List KeyRow} {k : ForeignKey} (h : IsKeyOf rows k) (r : KeyRow) :
    IsKeyOf (rows ++ [r]) (addPair k r) := by
  obtain ⟨⟨first, rest, rfl, htable, hreferred⟩, hcolumns, hreferredColumns⟩ := h
  refine ⟨⟨first, rest ++ [r], rfl, htable, hreferred⟩, ?_, ?_⟩
  · rw [List.map_append, List.map_singleton, ← addOnce_eraseDups, ← hcolumns]
    rfl
  · rw [List.map_append, List.map_singleton, List.filter_append]
    by_cases hr : r.referredColumn = ""
    · simp [Catalog.addPair, hr, hreferredColumns]
    · rw [List.filter_cons_of_pos (by simpa using hr), List.filter_nil, ← addOnce_eraseDups,
        ← hreferredColumns]
      simp [Catalog.addPair, hr]

lemma rowsOf_concat_self (rows : List KeyRow) (r : KeyRow) :
    rowsOf r.identity (rows ++ [r]) = rowsOf r.identity rows ++ [r] := by
  simp [rowsOf]

lemma rowsOf_concat_of_ne {id : String × String} {r : KeyRow} (h : id ≠ r.identity)
    (rows : List KeyRow) : rowsOf id (rows ++ [r]) = rowsOf id rows := by
  simp [rowsOf, Ne.symm h]

lemma mem_identities_iff {id : String × String} {rows : List KeyRow} :
    id ∈ identities rows ↔ ∃ r ∈ rows, r.identity = id := by
  simp [identities]

lemma rowsOf_eq_nil {id : String × String} {rows : List KeyRow} (h : id ∉ identities rows) :
    rowsOf id rows = [] := by
  rw [rowsOf, List.filter_eq_nil_iff]
  intro r hr hid
  exact h (mem_identities_iff.2 ⟨r, hr, by simpa using hid⟩)

lemma identities_concat (rows : List KeyRow) (r : KeyRow) :
    identities (rows ++ [r]) =
      if r.identity ∈ identities rows then identities rows
      else identities rows ++ [r.identity] := by
  simp only [identities, List.map_append, List.map_singleton, eraseDups_concat, List.mem_eraseDups]

/-! ### The keys so far -/

/-- An entry for a key, as the rows so far give it. -/
def IsEntry (rows : List KeyRow) (id : String × String) (e : (String × String) × ForeignKey) :
    Prop :=
  e.1 = id ∧ IsKeyOf (rowsOf id rows) e.2

variable {rows : List KeyRow} {r : KeyRow} {ids : List (String × String)}
  {keys : List ((String × String) × ForeignKey)}

lemma IsEntry.concat_of_ne {id : String × String} {e : (String × String) × ForeignKey}
    (h : IsEntry rows id e) (hne : id ≠ r.identity) : IsEntry (rows ++ [r]) id e :=
  ⟨h.1, by rw [rowsOf_concat_of_ne hne]; exact h.2⟩

/-- A row of another key leaves the keys as they are. -/
lemma forall₂_concat_of_not_mem (h : List.Forall₂ (IsEntry rows) ids keys)
    (hr : r.identity ∉ ids) : List.Forall₂ (IsEntry (rows ++ [r])) ids keys := by
  induction h with
  | nil => exact .nil
  | cons he _ ih =>
    rw [List.mem_cons, not_or] at hr
    exact .cons (he.concat_of_ne (Ne.symm hr.1)) (ih hr.2)

lemma addRow_of_not_mem (h : List.Forall₂ (IsEntry rows) ids keys) (hr : r.identity ∉ ids) :
    addRow r keys =
      keys ++ [(r.identity, addPair ⟨r.table, [], r.referredTable, []⟩ r)] := by
  induction h with
  | nil => rfl
  | cons he _ ih =>
    rw [List.mem_cons, not_or] at hr
    rw [addRow, he.1, if_neg (Ne.symm hr.1), ih hr.2, List.cons_append]
    rw [← he.1]

/-- A row of a known key changes that key alone. -/
lemma addRow_of_mem (h : List.Forall₂ (IsEntry rows) ids keys) (hids : ids.Nodup)
    (hr : r.identity ∈ ids) : List.Forall₂ (IsEntry (rows ++ [r])) ids (addRow r keys) := by
  induction h with
  | nil => cases hr
  | @cons id e ids keys he hes ih =>
    obtain ⟨id', k⟩ := e
    obtain ⟨rfl, hk⟩ := he
    obtain ⟨hid, hids⟩ := List.nodup_cons.1 hids
    rw [addRow]
    by_cases hself : id' = r.identity
    · subst hself
      rw [if_pos rfl]
      refine .cons ⟨rfl, ?_⟩ (forall₂_concat_of_not_mem hes hid)
      rw [rowsOf_concat_self]
      exact hk.addPair r
    · rw [if_neg hself]
      have hmem := (List.mem_cons.1 hr).resolve_left (Ne.symm hself)
      exact .cons (IsEntry.concat_of_ne ⟨rfl, hk⟩ hself) (ih hids hmem)

/-- What one row keeps: there is an entry for every key so far, in order. -/
lemma forall₂_addRow (h : List.Forall₂ (IsEntry rows) (identities rows) keys) :
    List.Forall₂ (IsEntry (rows ++ [r])) (identities (rows ++ [r])) (addRow r keys) := by
  rw [identities_concat]
  split
  · rename_i hr
    exact addRow_of_mem h (nodup_eraseDups _) hr
  · rename_i hr
    have hnew : IsEntry (rows ++ [r]) r.identity
        (r.identity, addPair ⟨r.table, [], r.referredTable, []⟩ r) := by
      refine ⟨rfl, ?_⟩
      rw [rowsOf_concat_self, rowsOf_eq_nil hr]
      exact isKeyOf_singleton r
    rw [addRow_of_not_mem h hr]
    exact List.rel_append (forall₂_concat_of_not_mem h hr) (.cons hnew .nil)

lemma forall₂_foldl_addRow (rows : List KeyRow) :
    List.Forall₂ (IsEntry rows) (identities rows)
      (rows.foldl (fun keys r => addRow r keys) []) := by
  induction rows using List.reverseRecOn with
  | nil => exact .nil
  | append_singleton rows r ih =>
    rw [List.foldl_concat]
    exact forall₂_addRow ih

lemma filter_isNamed (rows : List KeyRow) : rows.filter KeyRow.isNamed = named rows := by
  refine List.filter_congr fun r _ => ?_
  rw [KeyRow.isNamed, Bool.eq_iff_iff]
  simp

lemma forall₂_foreignKeys (rows : List KeyRow) :
    List.Forall₂ (fun id k => IsKeyOf (rowsOf id (named rows)) k) (identities (named rows))
      (foreignKeys rows) := by
  rw [foreignKeys, filter_isNamed, List.forall₂_map_right_iff]
  exact (forall₂_foldl_addRow (named rows)).imp fun _ _ he => he.2

/-! ### Columns that belong together -/

/-- What is kept of a list stands where it stood if nothing kept comes behind anything dropped. -/
lemma filter_isPrefix_iff {α : Type} (p : α → Bool) (xs : List α) :
    xs.filter p <+: xs ↔ xs.Pairwise fun x y => p x = false → p y = false := by
  induction xs with
  | nil => simp
  | cons x xs ih =>
    rw [List.pairwise_cons, ← ih]
    cases hx : p x with
    | true => simp [hx, List.cons_prefix_cons]
    | false =>
      rw [List.filter_cons_of_neg (by simp [hx])]
      constructor
      · intro h
        have hnone : xs.filter p = [] := by
          cases hxs : xs.filter p with
          | nil => rfl
          | cons y ys =>
            have hy : p y = true := List.of_mem_filter (hxs ▸ List.mem_cons_self)
            rw [hxs, List.cons_prefix_cons] at h
            rw [h.1, hx] at hy
            cases hy
        rw [List.filter_eq_nil_iff] at hnone
        refine ⟨fun y hy _ => by simpa using hnone y hy, ?_⟩
        rw [List.filter_eq_nil_iff.2 hnone]
        exact List.nil_prefix
      · rintro ⟨hnone, -⟩
        rw [List.filter_eq_nil_iff.2 fun y hy => by simp [hnone y hy rfl]]
        exact List.nil_prefix

section Pairs

variable {k : ForeignKey} (h : IsKeyOf rows k) (hcolumns : (rows.map KeyRow.column).Nodup)
  (hreferred : ((rows.map KeyRow.referredColumn).filter (· ≠ "")).Nodup)
include h hcolumns hreferred

lemma paired_iff_isPrefix :
    Paired rows k ↔
      (rows.map KeyRow.referredColumn).filter (· ≠ "") <+: rows.map KeyRow.referredColumn := by
  rw [Paired, h.columns, h.referredColumns, eraseDups_of_nodup hcolumns,
    eraseDups_of_nodup hreferred, List.prefix_iff_getElem?]
  constructor
  · intro hp n hn
    have hle : n < rows.length := by
      have := List.length_filter_le (· ≠ "") (rows.map KeyRow.referredColumn)
      rw [List.length_map] at this
      omega
    obtain ⟨r, hr, -, hd⟩ := hp n rows[n].column _ (by simp [hle]) (List.getElem?_eq_getElem hn)
    rw [List.getElem?_map, hr, Option.map_some, hd]
  · intro hp n c d hc hd
    obtain ⟨hn, rfl⟩ := List.getElem?_eq_some_iff.1 hd
    have hsame := hp n hn
    rw [List.getElem?_map, Option.map_eq_some_iff] at hc hsame
    obtain ⟨r, hr, hc⟩ := hc
    obtain ⟨r', hr', hd⟩ := hsame
    obtain rfl : r = r' := Option.some.inj (hr.symm.trans hr')
    exact ⟨r, hr, hc, hd⟩

/-- The columns of a key are in step just as far as its rows name the columns referred to. -/
lemma paired_iff : Paired rows k ↔
    rows.Pairwise fun r r' => r.referredColumn = "" → r'.referredColumn = "" := by
  rw [paired_iff_isPrefix h hcolumns hreferred, filter_isPrefix_iff, List.pairwise_map]
  simp

lemma length_columns_of_named (hnamed : ∀ r ∈ rows, r.referredColumn ≠ "") :
    k.columns.length = rows.length ∧ k.referredColumns.length = rows.length := by
  have hall : (rows.map KeyRow.referredColumn).filter (· ≠ "") =
      rows.map KeyRow.referredColumn := by
    rw [List.filter_eq_self, List.forall_mem_map]
    exact fun r hr => by simpa using hnamed r hr
  rw [h.columns, h.referredColumns, eraseDups_of_nodup hcolumns, eraseDups_of_nodup hreferred,
    hall, List.length_map, List.length_map]
  exact ⟨rfl, rfl⟩

end Pairs

/-- **Keys of a catalogue.** There is one key for each table and constraint that rows with a table
on either side belong to, in the order of their first appearance, and it is made from all of these
rows. If its rows name different columns, and refer to different ones, then the columns at each
place are from the row at that place, unless a row that names no column to refer to stands before
one that does. If all of them name one, there are as many columns on either side as rows. -/
theorem foreignKeys_grouped (rows : List KeyRow) :
    (identities (named rows)).Nodup ∧
    (∀ id, id ∈ identities (named rows) ↔
      ∃ r ∈ rows, (r.table ≠ "" ∧ r.referredTable ≠ "") ∧ (r.table, r.constraint) = id) ∧
    List.Forall₂ (fun id k => IsKeyOf (rowsOf id (named rows)) k) (identities (named rows))
      (foreignKeys rows) ∧
    ∀ id k, IsKeyOf (rowsOf id (named rows)) k →
      ((rowsOf id (named rows)).map KeyRow.column).Nodup →
      (((rowsOf id (named rows)).map KeyRow.referredColumn).filter (· ≠ "")).Nodup →
      (Paired (rowsOf id (named rows)) k ↔ (rowsOf id (named rows)).Pairwise fun r r' =>
        r.referredColumn = "" → r'.referredColumn = "") ∧
      ((∀ r ∈ rowsOf id (named rows), r.referredColumn ≠ "") →
        Paired (rowsOf id (named rows)) k ∧
          k.columns.length = (rowsOf id (named rows)).length ∧
          k.referredColumns.length = (rowsOf id (named rows)).length) := by
  refine ⟨nodup_eraseDups _, fun id => ?_, forall₂_foreignKeys rows, ?_⟩
  · rw [mem_identities_iff]
    simp [named, KeyRow.identity, and_assoc]
  · intro id k hk hcolumns hreferred
    have hiff := paired_iff hk hcolumns hreferred
    refine ⟨hiff, fun hnamed => ⟨hiff.2 ?_, length_columns_of_named hk hcolumns hreferred hnamed⟩⟩
    exact List.pairwise_of_forall_mem_list fun r hr _ _ hnone => absurd hnone (hnamed r hr)

/-- The rows of two keys of one table in turns, and a row that names no table to refer to. -/
def interleaved : List KeyRow :=
  [⟨"0", "lines", "order", "orders", "id"⟩, ⟨"1", "lines", "item", "items", "code"⟩,
    ⟨"0", "lines", "shop", "orders", "shop"⟩, ⟨"2", "lines", "note", "", "id"⟩,
    ⟨"1", "lines", "item", "items", ""⟩]

theorem foreignKeys_grouped_interleaved :
    identities (named interleaved) = [("lines", "0"), ("lines", "1")] ∧
    ∃ k ∈ foreignKeys interleaved,
      IsKeyOf (rowsOf ("lines", "0") (named interleaved)) k ∧
      ((rowsOf ("lines", "0") (named interleaved)).map KeyRow.column).Nodup ∧
      (((rowsOf ("lines", "0") (named interleaved)).map KeyRow.referredColumn).filter
        (· ≠ "")).Nodup ∧
      (∀ r ∈ rowsOf ("lines", "0") (named interleaved), r.referredColumn ≠ "") ∧
      Paired (rowsOf ("lines", "0") (named interleaved)) k := by
  obtain ⟨-, -, hkeys, hpairs⟩ := foreignKeys_grouped interleaved
  have hids : identities (named interleaved) = [("lines", "0"), ("lines", "1")] := by decide
  have hfound : foreignKeys interleaved =
      [⟨"lines", ["order", "shop"], "orders", ["id", "shop"]⟩,
        ⟨"lines", ["item"], "items", ["code"]⟩] := by decide
  rw [hids, hfound] at hkeys
  obtain ⟨hkey, -⟩ := List.forall₂_cons.1 hkeys
  have hcolumns : ((rowsOf ("lines", "0") (named interleaved)).map KeyRow.column).Nodup := by
    decide
  have hreferred : (((rowsOf ("lines", "0") (named interleaved)).map
      KeyRow.referredColumn).filter (· ≠ "")).Nodup := by decide
  have hnamed : ∀ r ∈ rowsOf ("lines", "0") (named interleaved), r.referredColumn ≠ "" := by
    decide
  refine ⟨hids, _, by rw [hfound]; exact List.mem_cons_self, hkey, hcolumns, hreferred, hnamed, ?_⟩
  exact ((hpairs _ _ hkey hcolumns hreferred).2 hnamed).1

end QueryGuard.Proofs.GroupedKeys
