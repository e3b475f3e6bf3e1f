import Mathlib
import QueryGuard.Json.Value
import QueryGuard.NameMap
import QueryGuard.Proofs.LogLines

/-!
The fields of an object.

Setting a field is what a map of names does: the names stay in increasing order, each once. So what
is gathered from a list of fields has a field for each name in the list, with the last value that
stands under the name.
-/

namespace QueryGuard.Proofs.JsonFields

open LogLines

/-- Fields in increasing order of their names, no name twice. -/
def Increasing (fs : List (String × Json)) : Prop := fs.Pairwise (·.1 < ·.1)

variable {fs : List (String × Json)} {name : String} {value : Json}

lemma put_eq_putName (name : String) (value : Json) (fs : List (String × Json)) :
    Json.put name value fs = putName name (fun _ => value) fs := by
  induction fs with
  | nil => rfl
  | cons f fs ih =>
    obtain ⟨n, v⟩ := f
    unfold Json.put putName
    split_ifs with hlt heq
    · rfl
    · rw [heq]
    · rw [ih]

lemma Increasing.put (h : Increasing fs) (name : String) (value : Json) :
    Increasing (Json.put name value fs) := by
  rw [put_eq_putName]
  exact pairwise_putName name _ h

lemma lookup_put (name : String) (value : Json) (fs : List (String × Json)) (k : String) :
    (Json.put name value fs).lookup k = if k = name then some value else fs.lookup k := by
  split_ifs with h
  · rw [h, lookup_put_self]
  · rw [lookup_put_of_ne h]

lemma mem_put {f : String × Json} (h : f ∈ Json.put name value fs) :
    f = (name, value) ∨ f ∈ fs := by
  induction fs with
  | nil => exact .inl (List.mem_singleton.1 h)
  | cons g fs ih =>
    obtain ⟨n, v⟩ := g
    unfold Json.put at h
    split_ifs at h with hlt heq
    · exact List.mem_cons.1 h
    · exact (List.mem_cons.1 h).imp_right (List.mem_cons_of_mem _)
    · rcases List.mem_cons.1 h with rfl | hmem
      · exact .inr List.mem_cons_self
      · exact (ih hmem).imp_right (List.mem_cons_of_mem _)

/-- A name behind all others is put at the end. -/
lemma put_of_forall_lt (h : ∀ f ∈ fs, f.1 < name) :
    Json.put name value fs = fs ++ [(name, value)] := by
  induction fs with
  | nil => rfl
  | cons f fs ih =>
    obtain ⟨n, v⟩ := f
    rw [List.forall_mem_cons] at h
    rw [Json.put, if_neg (lt_asymm h.1), if_neg (ne_of_gt h.1), ih h.2, List.cons_append]

lemma isSome_lookup_iff : (fs.lookup name).isSome ↔ name ∈ fs.map Prod.fst := by
  rw [List.lookup_isSome_iff, List.mem_map]
  exact exists_congr fun f => and_congr_right fun _ => by rw [beq_iff_eq, eq_comm]

lemma Increasing.nodup (h : Increasing fs) : (fs.map Prod.fst).Nodup := by
  rw [List.Nodup, List.pairwise_map]
  exact h.imp ne_of_lt

/-- Of different names each is found. -/
lemma lookup_eq_some_of_mem (h : (fs.map Prod.fst).Nodup) (hmem : (name, value) ∈ fs) :
    fs.lookup name = some value := by
  obtain ⟨before, behind, rfl⟩ := List.append_of_mem hmem
  rw [List.lookup_eq_some_iff]
  refine ⟨before, behind, rfl, fun f hf => ?_⟩
  rw [List.map_append, List.map_cons, List.nodup_append] at h
  have hne : f.1 ≠ name := h.2.2 f.1 (List.mem_map_of_mem hf) name List.mem_cons_self
  exact bne_iff_ne.2 hne.symm

/-! ### Gathering -/

/-- Fields set one by one among others. -/
def putAll (more fs : List (String × Json)) : List (String × Json) :=
  more.foldl (fun out f => Json.put f.1 f.2 out) fs

lemma putAll_concat (more : List (String × Json)) (f : String × Json) (fs : List (String × Json)) :
    putAll (more ++ [f]) fs = Json.put f.1 f.2 (putAll more fs) := by
  rw [putAll, List.foldl_append, List.foldl_cons, List.foldl_nil, putAll]

lemma Increasing.putAll (h : Increasing fs) (more : List (String × Json)) :
    Increasing (putAll more fs) := by
  induction more using List.reverseRecOn with
  | nil => exact h
  | append_singleton more f ih =>
    rw [putAll_concat]
    exact ih.put f.1 f.2

lemma mem_putAll {more : List (String × Json)} {f : String × Json} (h : f ∈ putAll more fs) :
    f ∈ more ∨ f ∈ fs := by
  induction more using List.reverseRecOn with
  | nil => exact .inr h
  | append_singleton more g ih =>
    rw [putAll_concat] at h
    rcases mem_put h with rfl | hmem
    · exact .inl (by simp)
    · exact (ih hmem).imp_left (List.mem_append_left [g])

/-- Of those that are set the last counts, and without one what stood there before. -/
lemma lookup_putAll (more fs : List (String × Json)) (k : String) :
    (putAll more fs).lookup k = (more.reverse.lookup k).or (fs.lookup k) := by
  induction more using List.reverseRecOn with
  | nil => rfl
  | append_singleton more f ih =>
    rw [putAll_concat, lookup_put, ih, List.reverse_concat, lookup_cons_eq]
    split_ifs <;> rfl

lemma ofFields_concat (fs : List (String × Json)) (f : String × Json) :
    Json.ofFields (fs ++ [f]) = Json.put f.1 f.2 (Json.ofFields fs) := putAll_concat fs f []

lemma increasing_ofFields (fs : List (String × Json)) : Increasing (Json.ofFields fs) :=
  Increasing.putAll .nil fs

/-- **The last one counts.** -/
theorem lookup_ofFields (fs : List (String × Json)) (k : String) :
    (Json.ofFields fs).lookup k = fs.reverse.lookup k := by
  have h := lookup_putAll fs [] k
  rwa [List.lookup_nil, Option.or_none] at h

lemma mem_names_ofFields_iff :
    name ∈ (Json.ofFields fs).map Prod.fst ↔ name ∈ fs.map Prod.fst := by
  rw [← isSome_lookup_iff, lookup_ofFields, isSome_lookup_iff, List.map_reverse, List.mem_reverse]

/-- Fields that stand in order already stay as they are. -/
lemma ofFields_of_increasing (h : Increasing fs) : Json.ofFields fs = fs := by
  induction fs using List.reverseRecOn with
  | nil => rfl
  | append_singleton fs f ih =>
    rw [Increasing, List.pairwise_append] at h
    rw [ofFields_concat, ih h.1]
    exact put_of_forall_lt fun g hg => h.2.2 g hg f List.mem_cons_self

/-- There are as many fields as different names. -/
lemma length_ofFields (fs : List (String × Json)) :
    (Json.ofFields fs).length = (fs.map Prod.fst).dedup.length := by
  have hperm : ((Json.ofFields fs).map Prod.fst).Perm (fs.map Prod.fst).dedup := by
    rw [List.perm_ext_iff_of_nodup (increasing_ofFields fs).nodup (List.nodup_dedup _)]
    intro k
    rw [mem_names_ofFields_iff, List.mem_dedup]
  rw [← hperm.length_eq, List.length_map]

/-! ### Fields of values -/

lemma toValues_eq_map (vs : List Json) : Json.toValues vs = vs.map Json.toValue := by
  induction vs with
  | nil => rfl
  | cons v vs ih => rw [Json.toValues, List.map_cons, ih]

lemma toValueFields_eq_map (fs : List (String × Json)) :
    Json.toValueFields fs = fs.map fun f => (f.1, f.2.toValue) := by
  induction fs with
  | nil => rfl
  | cons f fs ih => rw [Json.toValueFields, List.map_cons, ih]

/-- A value has the names of the record, and no others. -/
lemma mem_names_toValueFields_iff :
    name ∈ (Json.ofFields (Json.toValueFields fs)).map Prod.fst ↔ name ∈ fs.map Prod.fst := by
  rw [mem_names_ofFields_iff, toValueFields_eq_map, List.map_map]
  rfl

end QueryGuard.Proofs.JsonFields
