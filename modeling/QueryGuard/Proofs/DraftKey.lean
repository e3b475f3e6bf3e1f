import Mathlib.Algebra.Group.Nat.Defs
import Mathlib.Data.List.Basic
import QueryGuard.Draft.Cache
import QueryGuard.Proofs.JsonText
import QueryGuard.Proofs.NameOrder

/-!
What a key of the store of drafts stands for.

The key is the digest of a text made of the request and the schema. The text tells both, so where
digests do not collide a key stands for one request and one schema. In which order the tables of the
schema came together is not told.
-/

namespace QueryGuard.Proofs.DraftKey

open Json Draft JsonText NameOrder

/-! ### Schemas as values -/

lemma textual_strings (xs : List String) : Textual (strings xs) := by
  refine .arr fun v hv => ?_
  obtain ⟨x, -, rfl⟩ := List.mem_map.1 hv
  exact .str x

lemma textual_column (c : Column) : Textual c.toJson := by
  refine .obj fun f hf => ?_
  simp only [List.mem_cons, List.not_mem_nil, or_false] at hf
  rcases hf with rfl | rfl
  · exact .str c.name
  · exact .str c.type

lemma textual_foreignKey (k : ForeignKey) : Textual k.toJson := by
  refine .obj fun f hf => ?_
  simp only [List.mem_cons, List.not_mem_nil, or_false] at hf
  rcases hf with rfl | rfl | rfl | rfl
  · exact .str k.table
  · exact textual_strings k.columns
  · exact .str k.referredTable
  · exact textual_strings k.referredColumns

lemma textual_schema (s : Schema) : Textual s.toJson := by
  refine .obj fun f hf => ?_
  simp only [List.mem_cons, List.not_mem_nil, or_false] at hf
  rcases hf with rfl | rfl | rfl
  · exact .str s.dialect
  · refine .obj fun g hg => ?_
    obtain ⟨t, -, rfl⟩ := List.mem_map.1 hg
    refine .arr fun v hv => ?_
    obtain ⟨c, -, rfl⟩ := List.mem_map.1 hv
    exact textual_column c
  · refine .arr fun v hv => ?_
    obtain ⟨k, -, rfl⟩ := List.mem_map.1 hv
    exact textual_foreignKey k

lemma strings_injective : Function.Injective strings := by
  intro xs ys h
  have hstr : Function.Injective Json.str := fun _ _ h => Json.str.inj h
  exact hstr.list_map (Json.arr.inj h)

lemma column_toJson_injective : Function.Injective Column.toJson := by
  rintro ⟨n, t⟩ ⟨n', t'⟩ h
  simpa [Column.toJson] using h

lemma foreignKey_toJson_injective : Function.Injective ForeignKey.toJson := by
  rintro ⟨t, cs, r, rs⟩ ⟨t', cs', r', rs'⟩ h
  simpa [ForeignKey.toJson, strings_injective.eq_iff] using h

lemma tables_injective {a b : NameMap (List Column)}
    (h : a.entries.map (fun t => (t.1, Json.arr (t.2.map Column.toJson))) =
      b.entries.map fun t => (t.1, Json.arr (t.2.map Column.toJson))) : a = b := by
  have hentry : Function.Injective fun t : String × List Column =>
      (t.1, Json.arr (t.2.map Column.toJson)) := by
    rintro ⟨n, cs⟩ ⟨n', cs'⟩ h
    obtain ⟨hn, hcs⟩ := Prod.mk.inj h
    exact Prod.ext hn (column_toJson_injective.list_map (Json.arr.inj hcs))
  obtain ⟨as, _⟩ := a
  obtain ⟨bs, _⟩ := b
  obtain rfl : as = bs := hentry.list_map h
  rfl

lemma schema_toJson_injective : Function.Injective Schema.toJson := by
  rintro ⟨d, ts, ks⟩ ⟨d', ts', ks'⟩ h
  simp only [Schema.toJson, Json.obj.injEq, List.cons.injEq, Prod.mk.injEq, true_and, and_true,
    Json.str.injEq, Json.arr.injEq] at h
  obtain ⟨rfl, htables, hkeys⟩ := h
  rw [tables_injective htables, foreignKey_toJson_injective.list_map hkeys]

/-- **What a key stands for.** Its text tells the request and the schema. -/
theorem keyText_inj {request request' : String} {schema schema' : Schema}
    (h : keyText request schema = keyText request' schema') :
    request = request' ∧ schema = schema' := by
  have htextual : ∀ (request : String) (schema : Schema),
      Textual (.obj [("request", .str request), ("schema", schema.toJson)]) := by
    intro request schema
    refine .obj fun f hf => ?_
    simp only [List.mem_cons, List.not_mem_nil, or_false] at hf
    rcases hf with rfl | rfl
    · exact .str request
    · exact textual_schema schema
  have hcompact := congrArg String.toList h
  simp only [keyText, render, String.toList_ofList] at hcompact
  have hsame := (toldApart_compact _ (htextual request schema) (htextual request' schema') [] []
    (by rw [hcompact])).1
  simp only [Json.obj.injEq, List.cons.injEq, Prod.mk.injEq, true_and, and_true,
    Json.str.injEq] at hsame
  exact ⟨hsame.1, schema_toJson_injective hsame.2⟩

/-! ### Bytes -/

/-- The bytes whose digest a key is. -/
def keyBytes (request : String) (schema : Schema) : List UInt8 :=
  (keyText request schema).toUTF8.toList

lemma toList_loop (b : ByteArray) (i : Nat) (read : List UInt8) :
    ByteArray.toList.loop b i read = read.reverse ++ b.data.toList.drop i := by
  fun_induction ByteArray.toList.loop b i read with
  | case1 i read hlt ih =>
    have hlen : i < b.data.toList.length := by simpa using hlt
    have hbyte : b.get! i = b.data.toList[i] := by
      have hget : b.get! i = b.data[i]! := rfl
      rw [hget, getElem!_pos b.data i hlt, Array.getElem_toList]
    rw [ih, List.drop_eq_getElem_cons hlen, ← hbyte, List.reverse_cons, List.append_assoc,
      List.singleton_append]
  | case2 i read hge =>
    have hend : b.data.toList.length ≤ i := by simpa using hge
    rw [List.drop_eq_nil_of_le hend, List.append_nil]

lemma toList_toUTF8 (s : String) : s.toUTF8.toList = bytes s := by
  rw [ByteArray.toList, toList_loop, List.reverse_nil, List.nil_append, List.drop_zero, bytes]

/-- Tables with different names can be put into a map in either order. -/
lemma insert_comm {α : Type} (m : NameMap α) {name other : String} (h : name ≠ other) (v w : α) :
    (m.insert name v).insert other w = (m.insert other w).insert name v := by
  refine ext_get? fun n => ?_
  unfold NameMap.insert
  by_cases hn : n = name
  · subst hn
    rw [get?_alter_of_ne _ _ _ h, get?_alter_self, get?_alter_self]
  · by_cases ho : n = other
    · subst ho
      rw [get?_alter_self, get?_alter_of_ne _ _ _ hn, get?_alter_self]
    · rw [get?_alter_of_ne _ _ _ ho, get?_alter_of_ne _ _ _ hn, get?_alter_of_ne _ _ _ hn,
        get?_alter_of_ne _ _ _ ho]

lemma ofList_perm {α : Type} {l l' : List (String × α)} (hperm : l.Perm l')
    (hnames : (l.map Prod.fst).Nodup) : NameMap.ofList l = NameMap.ofList l' := by
  refine hperm.foldl_eq' (fun e he f hf m => ?_) NameMap.empty
  by_cases h : e.1 = f.1
  · rw [List.inj_on_of_nodup_map hnames he hf h]
  · exact insert_comm m h e.2 f.2

/-- **A key covers everything.** It is the digest of bytes that tell the request and the whole
schema, and that do not depend on the order in which the tables were put in. -/
theorem keyBytes_eq_iff :
    (∀ request schema, cacheKey request schema = Sha256.hex (keyBytes request schema)) ∧
    (∀ request request' schema schema',
      keyBytes request schema = keyBytes request' schema' ↔
        request = request' ∧ schema = schema') ∧
    ∀ (tables tables' : List (String × List Column)),
      tables.Perm tables' → (tables.map Prod.fst).Nodup → ∀ request dialect keys,
        keyBytes request ⟨dialect, .ofList tables, keys⟩ =
          keyBytes request ⟨dialect, .ofList tables', keys⟩ := by
  refine ⟨fun _ _ => rfl, fun request request' schema schema' => ?_, ?_⟩
  · unfold keyBytes
    rw [toList_toUTF8, toList_toUTF8, bytes_inj]
    refine ⟨keyText_inj, ?_⟩
    rintro ⟨rfl, rfl⟩
    rfl
  · intro tables tables' hperm hnames request dialect keys
    rw [ofList_perm hperm hnames]

/-- Of two tables either can come first. -/
theorem keyBytes_eq_iff_swapped :
    ([("users", []), ("orders", [])] : List (String × List Column)).Perm
        [("orders", []), ("users", [])] ∧
      keyBytes "all" ⟨"sqlite", .ofList [("users", []), ("orders", [])], []⟩ =
        keyBytes "all" ⟨"sqlite", .ofList [("orders", []), ("users", [])], []⟩ := by
  have hperm : ([("users", []), ("orders", [])] : List (String × List Column)).Perm
      [("orders", []), ("users", [])] := .swap _ _ _
  exact ⟨hperm, keyBytes_eq_iff.2.2 _ _ hperm (by decide) "all" "sqlite" []⟩

/-! ### Digests -/

/-- The eight digits of a word. -/
def hexWord (w : UInt32) : List Char :=
  (List.range 8).map fun i => Nat.digitChar (w.toNat / Nat.pow 16 (7 - i) % 16)

lemma digitChar_inj : ∀ m < 16, ∀ n < 16, Nat.digitChar m = Nat.digitChar n → m = n := by
  decide

/-- A number below a power of sixteen is known by so many of its digits. -/
lemma eq_of_digits {k m n : Nat} (hm : m < 16 ^ k) (hn : n < 16 ^ k)
    (h : ∀ i < k, m / 16 ^ i % 16 = n / 16 ^ i % 16) : m = n := by
  induction k generalizing m n with
  | zero => omega
  | succ k ih =>
    have hlast : m % 16 = n % 16 := by simpa using h 0 (by omega)
    have hrest : m / 16 = n / 16 := by
      refine ih (by omega) (by omega) fun i hi => ?_
      rw [Nat.div_div_eq_div_mul, Nat.div_div_eq_div_mul, ← Nat.pow_succ']
      exact h (i + 1) (by omega)
    omega

lemma hexWord_injective : Function.Injective hexWord := by
  intro v w h
  apply UInt32.toNat_inj.1
  refine eq_of_digits (k := 8) v.toNat_lt w.toNat_lt fun i hi => ?_
  have hchar := List.map_inj_left.1 h (7 - i) (List.mem_range.2 (by omega))
  rw [show 7 - (7 - i) = i by omega] at hchar
  exact digitChar_inj _ (Nat.mod_lt _ (by omega)) _ (Nat.mod_lt _ (by omega)) hchar

lemma flatMap_hexWord_injective :
    Function.Injective fun ws : List UInt32 => ws.flatMap hexWord := by
  intro vs ws h
  induction vs generalizing ws with
  | nil =>
    cases ws with
    | nil => rfl
    | cons w ws => exact nomatch h
  | cons v vs ih =>
    cases ws with
    | nil => exact nomatch h
    | cons w ws =>
      obtain ⟨hhead, htail⟩ := List.append_inj h rfl
      rw [hexWord_injective hhead, ih htail]

/-- The digits of a digest tell the digest. -/
theorem digest_eq_of_hex_eq {m n : List UInt8} (h : Sha256.hex m = Sha256.hex n) :
    Sha256.digest m = Sha256.digest n :=
  flatMap_hexWord_injective (String.ofList_injective h)

end QueryGuard.Proofs.DraftKey
