import Mathlib.Data.List.Sort
import Mathlib.Data.String.Basic
import QueryGuard.NameMap

/-!
The order of names, and what is found under a name.

Names are compared by their code points. UTF-8 writes greater code points with greater bytes, so
this is the order of the bytes as well. A map keeps its names in that order and is known by what is
found in it.
-/

namespace QueryGuard.Proofs.NameOrder

/-! ### Bytes -/

/-- A name in UTF-8. -/
def bytes (name : String) : List UInt8 := name.toUTF8.data.toList

lemma bytes_eq_flatMap (name : String) :
    bytes name = name.toList.flatMap String.utf8EncodeChar := by
  rw [bytes, String.toUTF8, ← String.utf8Encode_toList, List.utf8Encode,
    List.toList_data_toByteArray]

/-- A greater character has greater bytes. -/
lemma encode_append_lt {c d : Char} (h : c < d) (x y : List UInt8) :
    String.utf8EncodeChar c ++ x < String.utf8EncodeChar d ++ y := by
  have hval : c.val.toNat < d.val.toNat := h
  have hd : d.val.toNat < 0x110000 := by
    have hvalid := d.valid
    simp only [UInt32.isValidChar, Nat.isValidChar] at hvalid
    omega
  have hbyte : ∀ n < 256, (UInt8.ofNat n).toNat = n := fun n hn => UInt8.toNat_ofNat_of_lt' hn
  -- the bytes hold the digits to base 64
  have h4096 : ∀ n : Nat, n / 4096 = n / 64 / 64 := fun n => by omega
  have h262144 : ∀ n : Nat, n / 262144 = n / 64 / 64 / 64 := fun n => by omega
  unfold String.utf8EncodeChar
  simp only [h4096, h262144]
  split_ifs <;>
    simp (disch := omega) only [List.cons_append, List.nil_append, List.cons_lt_cons_iff,
      UInt8.lt_iff_toNat_lt, ← UInt8.toNat_inj, hbyte] <;> omega

lemma flatMap_encode_lt {s t : List Char} (h : s < t) :
    s.flatMap String.utf8EncodeChar < t.flatMap String.utf8EncodeChar := by
  induction s generalizing t with
  | nil =>
    cases t with
    | nil => exact absurd h (List.lt_irrefl [])
    | cons d t =>
      obtain ⟨b, bs, hd⟩ := List.exists_cons_of_ne_nil (String.utf8EncodeChar_ne_nil (c := d))
      rw [List.flatMap_nil, List.flatMap_cons, hd]
      exact List.nil_lt_cons b _
  | cons c s ih =>
    cases t with
    | nil => exact absurd h (List.not_lt_nil _)
    | cons d t =>
      rw [List.flatMap_cons, List.flatMap_cons]
      rcases List.cons_lt_cons_iff.1 h with hlt | ⟨rfl, hlt⟩
      · exact encode_append_lt hlt _ _
      · exact List.append_left_lt (ih hlt)

/-- **The order of names** is the order of their bytes. -/
theorem bytes_lt_iff (a b : String) : bytes a < bytes b ↔ a < b := by
  have hmono : ∀ {a b : String}, a < b → bytes a < bytes b := by
    intro a b h
    rw [bytes_eq_flatMap, bytes_eq_flatMap]
    exact flatMap_encode_lt (String.lt_iff_toList_lt.1 h)
  refine ⟨fun h => ?_, hmono⟩
  rcases lt_trichotomy a b with hab | rfl | hab
  · exact hab
  · exact absurd h (List.lt_irrefl _)
  · exact absurd h (List.lt_asymm (hmono hab))

lemma bytes_inj {a b : String} : bytes a = bytes b ↔ a = b := by
  refine ⟨fun h => ?_, congrArg bytes⟩
  rcases lt_trichotomy a b with hab | hab | hab
  · rw [← bytes_lt_iff, h] at hab
    exact absurd hab (List.lt_irrefl _)
  · exact hab
  · rw [← bytes_lt_iff, h] at hab
    exact absurd hab (List.lt_irrefl _)

/-- Lists of names are compared name by name. -/
lemma map_bytes_lt_iff (p q : List String) : p.map bytes < q.map bytes ↔ p < q := by
  induction p generalizing q with
  | nil => cases q <;> simp
  | cons a p ih =>
    cases q with
    | nil => simp
    | cons b q =>
      rw [List.map_cons, List.map_cons, List.cons_lt_cons_iff, List.cons_lt_cons_iff,
        bytes_lt_iff, bytes_inj, ih]

/-! ### Found under a name -/

section Maps

variable {α : Type} (name : String) (change : Option α → α)

lemma lookup_putName {l : List (String × α)} (h : l.Pairwise (·.1 < ·.1)) (other : String) :
    (putName name change l).lookup other =
      if other = name then some (change (l.lookup name)) else l.lookup other := by
  induction l with
  | nil =>
    rw [putName, List.lookup_cons, List.lookup_nil]
    split <;> simp_all
  | cons e l ih =>
    obtain ⟨n, v⟩ := e
    obtain ⟨hn, hl⟩ := List.pairwise_cons.1 h
    simp only [putName]
    split
    · -- the name is new: all that stands here is greater
      rename_i hlt
      have hnone : List.lookup name ((n, v) :: l) = none := by
        rw [List.lookup_eq_none_iff]
        intro e he
        rcases List.mem_cons.1 he with rfl | he
        · simpa using ne_of_lt hlt
        · simpa using ne_of_lt (lt_trans hlt (hn e he))
      rw [hnone, List.lookup_cons]
      split <;> simp_all
    · split
      · rename_i heq
        subst heq
        rw [List.lookup_cons, List.lookup_cons, List.lookup_cons]
        by_cases ho : other = name
        · simp [ho]
        · simp [ho, beq_eq_false_iff_ne.2 ho]
      · rename_i hne
        rw [List.lookup_cons, List.lookup_cons, List.lookup_cons, ih hl]
        by_cases ho : other = n
        · have hon : other ≠ name := fun h => hne (h ▸ ho)
          simp [ho, Ne.symm hne]
        · simp [beq_eq_false_iff_ne.2 ho, beq_eq_false_iff_ne.2 hne]

variable (m : NameMap α)

@[simp] lemma get?_empty : (NameMap.empty : NameMap α).get? name = none := rfl

@[simp] lemma get?_alter_self : (m.alter name change).get? name = some (change (m.get? name)) := by
  rw [NameMap.get?, NameMap.alter, lookup_putName name change m.increasing, if_pos rfl,
    NameMap.get?]

lemma get?_alter_of_ne {other : String} (h : other ≠ name) :
    (m.alter name change).get? other = m.get? other := by
  rw [NameMap.get?, NameMap.alter, lookup_putName name change m.increasing, if_neg h,
    NameMap.get?]

variable {name m}

lemma mem_entries_iff {v : α} : (name, v) ∈ m.entries ↔ m.get? name = some v := by
  rw [NameMap.get?, List.lookup_eq_some_iff]
  constructor
  · intro hm
    obtain ⟨before, behind, hl⟩ := List.append_of_mem hm
    refine ⟨before, behind, hl, fun e he => ?_⟩
    have hinc := m.increasing
    rw [hl, List.pairwise_append] at hinc
    have hlt : e.1 < name := hinc.2.2 e he _ List.mem_cons_self
    simpa using ne_of_gt hlt
  · rintro ⟨before, behind, hl, -⟩
    rw [hl]
    simp

/-- A map is known by what is found in it. -/
lemma ext_get? {m m' : NameMap α} (h : ∀ name, m.get? name = m'.get? name) : m = m' := by
  have hirrefl : Std.Irrefl fun e f : String × α => e.1 < f.1 := ⟨fun e => lt_irrefl e.1⟩
  have hantisymm : Std.Antisymm fun e f : String × α => e.1 < f.1 :=
    ⟨fun _ _ hef hfe => absurd hef (lt_asymm hfe)⟩
  have hentries : m.entries = m'.entries := by
    refine List.Pairwise.eq_of_mem_iff m.increasing m'.increasing fun e => ?_
    rw [← Prod.mk.eta (p := e), mem_entries_iff, mem_entries_iff, h]
  cases m
  cases m'
  cases hentries
  rfl

end Maps

end QueryGuard.Proofs.NameOrder
