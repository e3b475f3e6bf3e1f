import Mathlib.Data.List.Nodup
import Mathlib.Tactic.Common
import QueryGuard.Draft.Cache

/-!
The entries of a cache.

There is one entry for each key. A search finds a fresh entry under its key and leaves the cache as
it is, or it finds none and drops at most a stale one. Storing puts one entry in, and of the others
it leaves those that are fresh and have another key.
-/

namespace QueryGuard.Proofs.CacheEntries

open Draft

variable {c : Cache} {key sql : String} {now : Nat} {e : Entry}

/-- No key twice. -/
def UniqueKeys (c : Cache) : Prop := (c.entries.map Entry.key).Nodup

lemma uniqueKeys_empty (ttl : Nat) : UniqueKeys (.empty ttl) := List.nodup_nil

lemma UniqueKeys.eq_of_key (hu : UniqueKeys c) (he : e ∈ c.entries) {e' : Entry}
    (he' : e' ∈ c.entries) (hkey : e.key = e'.key) : e = e' :=
  List.inj_on_of_nodup_map hu he he' hkey

lemma isFresh_iff (c : Cache) (now : Nat) (e : Entry) :
    c.isFresh now e = true ↔ now ≤ e.storedAt + c.ttl := by
  unfold Cache.isFresh
  rw [decide_eq_true_eq]
  omega

lemma mem_of_entry? (h : c.entry? key = some e) : e ∈ c.entries ∧ e.key = key :=
  ⟨List.mem_of_find?_eq_some h, by simpa using List.find?_some h⟩

lemma entry?_of_mem (hu : UniqueKeys c) (he : e ∈ c.entries) : c.entry? e.key = some e := by
  cases hentry : c.entry? e.key with
  | none =>
    have hnot := List.find?_eq_none.1 hentry e he
    simp at hnot
  | some e' =>
    obtain ⟨he', hkey⟩ := mem_of_entry? hentry
    rw [hu.eq_of_key he he' hkey.symm]

/-! ### Searching -/

/-- A search finds nothing, or a fresh entry, or it drops a stale one. -/
lemma getAt_cases (c : Cache) (key : String) (now : Nat) :
    (c.entry? key = none ∧ c.getAt key now = (none, c)) ∨
      (∃ e, c.entry? key = some e ∧ now ≤ e.storedAt + c.ttl ∧
        c.getAt key now = (some e.sql, c)) ∨
      ∃ e, c.entry? key = some e ∧ ¬now ≤ e.storedAt + c.ttl ∧
        c.getAt key now = (none, c.remove key) := by
  cases hentry : c.entry? key with
  | none => exact .inl ⟨rfl, by simp [Cache.getAt, hentry]⟩
  | some e =>
    by_cases hfresh : c.isFresh now e = true
    · refine .inr (.inl ⟨e, rfl, (isFresh_iff c now e).1 hfresh, ?_⟩)
      simp [Cache.getAt, hentry, hfresh]
    · refine .inr (.inr ⟨e, rfl, mt (isFresh_iff c now e).2 hfresh, ?_⟩)
      simp [Cache.getAt, hentry, hfresh]

/-- What is found is a fresh entry under the key, and the cache stays as it is. -/
lemma getAt_eq_some (h : (c.getAt key now).1 = some sql) :
    (c.getAt key now).2 = c ∧
      ∃ e ∈ c.entries, e.key = key ∧ e.sql = sql ∧ now ≤ e.storedAt + c.ttl := by
  rcases getAt_cases c key now with ⟨-, hget⟩ | ⟨e, hentry, hfresh, hget⟩ | ⟨e, -, -, hget⟩
  · rw [hget] at h
    cases h
  · rw [hget] at h ⊢
    obtain ⟨he, hkey⟩ := mem_of_entry? hentry
    exact ⟨rfl, e, he, hkey, Option.some.inj h, hfresh⟩
  · rw [hget] at h
    cases h

lemma getAt_of_mem (hu : UniqueKeys c) (he : e ∈ c.entries) (hfresh : now ≤ e.storedAt + c.ttl) :
    c.getAt e.key now = (some e.sql, c) := by
  have hentry := entry?_of_mem hu he
  have hf := (isFresh_iff c now e).2 hfresh
  simp [Cache.getAt, hentry, hf]

lemma ttl_getAt (c : Cache) (key : String) (now : Nat) : (c.getAt key now).2.ttl = c.ttl := by
  rcases getAt_cases c key now with ⟨-, hget⟩ | ⟨e, -, -, hget⟩ | ⟨e, -, -, hget⟩ <;> rw [hget]
  rfl

lemma sublist_getAt (c : Cache) (key : String) (now : Nat) :
    (c.getAt key now).2.entries.Sublist c.entries := by
  rcases getAt_cases c key now with ⟨-, hget⟩ | ⟨e, -, -, hget⟩ | ⟨e, -, -, hget⟩ <;> rw [hget]
  exact List.filter_sublist

lemma UniqueKeys.getAt (hu : UniqueKeys c) (key : String) (now : Nat) :
    UniqueKeys (c.getAt key now).2 :=
  ((sublist_getAt c key now).map Entry.key).nodup hu

/-- A search drops no fresh entry. -/
lemma mem_getAt (hu : UniqueKeys c) (he : e ∈ c.entries) (hfresh : now ≤ e.storedAt + c.ttl)
    (key : String) : e ∈ (c.getAt key now).2.entries := by
  rcases getAt_cases c key now with ⟨-, hget⟩ | ⟨e', -, -, hget⟩ | ⟨e', hentry, hstale, hget⟩
  · rw [hget]
    exact he
  · rw [hget]
    exact he
  · rw [hget]
    obtain ⟨he', hkey⟩ := mem_of_entry? hentry
    refine List.mem_filter.2 ⟨he, ?_⟩
    rw [bne_iff_ne]
    intro hsame
    rw [hu.eq_of_key he he' (hsame.trans hkey.symm)] at hfresh
    exact hstale hfresh

/-! ### Storing -/

lemma ttl_setAt (c : Cache) (key sql : String) (now : Nat) : (c.setAt key sql now).ttl = c.ttl :=
  rfl

lemma mem_setAt_iff :
    e ∈ (c.setAt key sql now).entries ↔
      e = ⟨key, sql, now⟩ ∨ e ∈ c.entries ∧ now ≤ e.storedAt + c.ttl ∧ e.key ≠ key := by
  unfold Cache.setAt
  rw [List.mem_cons, List.mem_filter, Bool.and_eq_true, isFresh_iff, bne_iff_ne]

lemma UniqueKeys.setAt (hu : UniqueKeys c) (key sql : String) (now : Nat) :
    UniqueKeys (c.setAt key sql now) := by
  unfold UniqueKeys Cache.setAt
  rw [List.map_cons, List.nodup_cons]
  constructor
  · intro hm
    obtain ⟨e, he, hkey⟩ := List.mem_map.1 hm
    have hne := (List.mem_filter.1 he).2
    rw [Bool.and_eq_true, bne_iff_ne] at hne
    exact hne.2 hkey
  · exact ((List.filter_sublist (l := c.entries)).map Entry.key).nodup hu

end QueryGuard.Proofs.CacheEntries
