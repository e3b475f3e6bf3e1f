import Mathlib.Data.Set.Card
import QueryGuard.Proofs.CacheEntries

/-!
A cache and what was done with it.

Whatever the clocks show, an entry of the cache is the last one that was stored under its key, since
storing replaces what stood there and nothing else puts an entry in. And an entry that was fresh at
every instant so far is still there, since searching and sweeping drop stale entries only. When no
clock goes back, an entry that is fresh now was fresh all the time, and the two together say what is
found and how many entries there are.
-/

namespace QueryGuard.Proofs.CacheHistory

open Draft CacheEntries

/-- What is done with a cache, and at which instant. -/
inductive Operation where
  | search (key : String) (now : Nat)
  | store (key sql : String) (now : Nat)

namespace Operation

def now : Operation → Nat
  | search _ t => t
  | store _ _ t => t

/-- The entry that is put in. -/
def stored? : Operation → Option Entry
  | search .. => none
  | store key sql t => some ⟨key, sql, t⟩

def apply (c : Cache) : Operation → Cache
  | search key t => (c.getAt key t).2
  | store key sql t => c.setAt key sql t

end Operation

/-- The cache after operations one after the other. -/
def after (ttl : Nat) (history : List Operation) : Cache :=
  history.foldl Operation.apply (.empty ttl)

/-- The entry that was last stored under a key, fresh or not. -/
def latest? (key : String) (history : List Operation) : Option Entry :=
  (history.filterMap Operation.stored?).reverse.find? (·.key == key)

variable {ttl now now' : Nat} {key other sql : String} {e : Entry} {c c' : Cache}
variable {history before between : List Operation}

@[simp] lemma after_concat (ttl : Nat) (history : List Operation) (o : Operation) :
    after ttl (history ++ [o]) = o.apply (after ttl history) := by
  simp [after]

@[simp] lemma latest?_search (key other : String) (now : Nat) (history : List Operation) :
    latest? key (history ++ [.search other now]) = latest? key history := by
  have hnone : [Operation.search other now].filterMap Operation.stored? = [] := rfl
  rw [latest?, List.filterMap_append, hnone, List.append_nil, latest?]

lemma latest?_store (key other sql : String) (now : Nat) (history : List Operation) :
    latest? key (history ++ [.store other sql now]) =
      if other = key then some ⟨other, sql, now⟩ else latest? key history := by
  have hone : [Operation.store other sql now].filterMap Operation.stored? = [⟨other, sql, now⟩] :=
    rfl
  rw [latest?, List.filterMap_append, hone, List.reverse_append, List.reverse_singleton,
    List.singleton_append, List.find?_cons]
  by_cases h : other = key
  · simp [h]
  · simp [beq_eq_false_iff_ne.2 h, h, latest?]

lemma key_of_latest? (h : latest? key history = some e) : e.key = key := by
  have hfound := List.find?_some h
  simpa using hfound

/-! ### One operation -/

lemma ttl_apply (c : Cache) (o : Operation) : (o.apply c).ttl = c.ttl := by
  cases o with
  | search key now => exact ttl_getAt c key now
  | store key sql now => exact ttl_setAt c key sql now

lemma uniqueKeys_apply (hu : UniqueKeys c) (o : Operation) : UniqueKeys (o.apply c) := by
  cases o with
  | search key now => exact hu.getAt key now
  | store key sql now => exact hu.setAt key sql now

/-- A search drops the entry under its key if that is stale, and nothing else. -/
lemma mem_getAt_iff (hu : UniqueKeys c) :
    e ∈ (c.getAt key now).2.entries ↔
      e ∈ c.entries ∧ (e.key = key → now ≤ e.storedAt + c.ttl) := by
  rcases getAt_cases c key now with ⟨hnone, hget⟩ | ⟨e', hentry, hfresh, hget⟩ |
    ⟨e', hentry, hstale, hget⟩
  · rw [hget]
    refine ⟨fun he => ⟨he, ?_⟩, And.left⟩
    rintro rfl
    rw [entry?_of_mem hu he] at hnone
    cases hnone
  · rw [hget]
    refine ⟨fun he => ⟨he, ?_⟩, And.left⟩
    rintro rfl
    rw [entry?_of_mem hu he] at hentry
    cases hentry
    exact hfresh
  · obtain ⟨he', rfl⟩ := mem_of_entry? hentry
    rw [hget, Cache.remove, List.mem_filter, bne_iff_ne]
    refine and_congr_right fun he => ⟨fun hne heq => absurd heq hne, fun hfresh heq => ?_⟩
    rw [hu.eq_of_key he he' heq] at hfresh
    exact hstale (hfresh rfl)

/-- Of two caches with the same entries under a key, an operation makes two such caches. -/
lemma agree_apply (hu : UniqueKeys c) (hu' : UniqueKeys c') (httl : c.ttl = c'.ttl)
    (h : ∀ e, e.key = key → (e ∈ c.entries ↔ e ∈ c'.entries)) (o : Operation) :
    ∀ e, e.key = key → (e ∈ (o.apply c).entries ↔ e ∈ (o.apply c').entries) := by
  intro e he
  cases o with
  | search key now =>
    rw [Operation.apply, Operation.apply, mem_getAt_iff hu, mem_getAt_iff hu', h e he, httl]
  | store key sql now =>
    rw [Operation.apply, Operation.apply, mem_setAt_iff, mem_setAt_iff, h e he, httl]

/-! ### A whole history -/

lemma ttl_after (ttl : Nat) (history : List Operation) : (after ttl history).ttl = ttl := by
  induction history using List.reverseRecOn with
  | nil => rfl
  | append_singleton history o ih => rw [after_concat, ttl_apply, ih]

lemma uniqueKeys_after (ttl : Nat) (history : List Operation) :
    UniqueKeys (after ttl history) := by
  induction history using List.reverseRecOn with
  | nil => exact uniqueKeys_empty ttl
  | append_singleton history o ih =>
    rw [after_concat]
    exact uniqueKeys_apply ih o

/-- What the cache holds under a key was stored there last. -/
lemma latest?_of_mem (he : e ∈ (after ttl history).entries) :
    latest? e.key history = some e := by
  induction history using List.reverseRecOn with
  | nil => cases he
  | append_singleton history o ih =>
    rw [after_concat] at he
    cases o with
    | search key now =>
      rw [latest?_search]
      exact ih ((sublist_getAt _ key now).subset he)
    | store key sql now =>
      rw [latest?_store]
      rcases mem_setAt_iff.1 he with rfl | ⟨hold, -, hne⟩
      · exact if_pos rfl
      · rw [if_neg (Ne.symm hne)]
        exact ih hold

/-- What was stored last under a key is there if it was fresh at every instant. -/
lemma mem_of_latest? (he : latest? key history = some e)
    (hfresh : ∀ t ∈ history.map Operation.now, t ≤ e.storedAt + ttl) :
    e ∈ (after ttl history).entries := by
  induction history using List.reverseRecOn with
  | nil => cases he
  | append_singleton history o ih =>
    have hbefore : ∀ t ∈ history.map Operation.now, t ≤ e.storedAt + ttl :=
      fun t ht => hfresh t (by simpa using .inl (by simpa using ht))
    have hnow : o.now ≤ e.storedAt + (after ttl history).ttl := by
      rw [ttl_after]
      exact hfresh o.now (by simp)
    rw [after_concat]
    cases o with
    | search other now =>
      rw [latest?_search] at he
      exact mem_getAt (uniqueKeys_after ttl history) (ih he hbefore) hnow other
    | store other sql now =>
      rw [latest?_store] at he
      refine mem_setAt_iff.2 ?_
      split at he
      · exact .inl (Option.some.inj he).symm
      · rename_i hne
        have hmem := ih he hbefore
        exact .inr ⟨hmem, hnow, fun h => hne (h.symm.trans (key_of_latest? he))⟩

/-- Under one key nothing is changed by a search under another. -/
lemma agree_after (hne : other ≠ key) (before between : List Operation) (now : Nat) :
    ∀ e, e.key = key → (e ∈ (after ttl (before ++ .search other now :: between)).entries ↔
      e ∈ (after ttl (before ++ between)).entries) := by
  induction between using List.reverseRecOn with
  | nil =>
    intro e he
    rw [after_concat, Operation.apply, mem_getAt_iff (uniqueKeys_after ttl before),
      List.append_nil]
    exact and_iff_left fun h => absurd (h.symm.trans he) hne
  | append_singleton between o ih =>
    rw [← List.cons_append, ← List.append_assoc, ← List.append_assoc, after_concat, after_concat]
    refine agree_apply (uniqueKeys_after ttl _) (uniqueKeys_after ttl _) ?_ ih o
    rw [ttl_after, ttl_after]

/-! ### What is found -/

/-- What is found is the fresh entry under the key. -/
lemma getAt_eq_some_iff (hu : UniqueKeys c) :
    (c.getAt key now).1 = some sql ↔
      ∃ e ∈ c.entries, e.key = key ∧ e.sql = sql ∧ now ≤ e.storedAt + c.ttl := by
  refine ⟨fun h => (getAt_eq_some h).2, ?_⟩
  rintro ⟨e, he, rfl, rfl, hfresh⟩
  rw [getAt_of_mem hu he hfresh]

/-- What is found was stored last, not longer than `ttl` ago. -/
lemma latest?_of_found (h : ((after ttl history).getAt key now).1 = some sql) :
    ∃ e, latest? key history = some e ∧ e.sql = sql ∧ now ≤ e.storedAt + ttl := by
  obtain ⟨e, he, rfl, hsql, hfresh⟩ := (getAt_eq_some h).2
  rw [ttl_after] at hfresh
  exact ⟨e, latest?_of_mem he, hsql, hfresh⟩

/-- A search under one key changes no answer under another. -/
lemma found_of_search (hne : other ≠ key) (before between : List Operation) (now' now : Nat) :
    ((after ttl (before ++ .search other now' :: between)).getAt key now).1 =
      ((after ttl (before ++ between)).getAt key now).1 := by
  refine Option.ext fun sql => ?_
  rw [getAt_eq_some_iff (uniqueKeys_after ttl _), getAt_eq_some_iff (uniqueKeys_after ttl _),
    ttl_after, ttl_after]
  exact exists_congr fun e =>
    ⟨fun ⟨he, hkey, h⟩ => ⟨(agree_after hne before between now' e hkey).1 he, hkey, h⟩,
      fun ⟨he, hkey, h⟩ => ⟨(agree_after hne before between now' e hkey).2 he, hkey, h⟩⟩

/-- With clocks that do not go back, what is fresh now was fresh at every instant. -/
lemma fresh_of_ordered {times : List Nat} (hclock : (times ++ [now]).Pairwise (· ≤ ·))
    (hfresh : now ≤ e.storedAt + ttl) : ∀ t ∈ times, t ≤ e.storedAt + ttl := by
  intro t ht
  have hle : t ≤ now := (List.pairwise_append.1 hclock).2.2 t ht now (List.mem_singleton_self now)
  omega

lemma found_of_ordered (hclock : (history.map Operation.now ++ [now]).Pairwise (· ≤ ·)) :
    ((after ttl history).getAt key now).1 =
      ((latest? key history).filter fun e => now - e.storedAt ≤ ttl).map Entry.sql := by
  refine Option.ext fun sql => ?_
  simp only [Option.map_eq_some_iff, Option.filter_eq_some_iff, decide_eq_true_eq]
  constructor
  · intro h
    obtain ⟨e, he, hsql, hfresh⟩ := latest?_of_found h
    exact ⟨e, ⟨he, by omega⟩, hsql⟩
  · rintro ⟨e, ⟨he, hage⟩, rfl⟩
    have hfresh : now ≤ e.storedAt + ttl := by omega
    have hmem := mem_of_latest? he (fresh_of_ordered hclock hfresh)
    rw [getAt_eq_some_iff (uniqueKeys_after ttl history), ttl_after]
    exact ⟨e, hmem, key_of_latest? he, rfl, hfresh⟩

/-- Keys whose last entry is fresh. -/
def freshKeys (ttl now : Nat) (history : List Operation) : Set String :=
  {key | ∃ e, latest? key history = some e ∧ now - e.storedAt ≤ ttl}

/-- Right after a sweep there is an entry for each key whose last one is fresh. -/
lemma size_of_ordered
    (hclock : (history.map Operation.now ++ [now]).Pairwise (· ≤ ·)) :
    (after ttl (history ++ [.store key sql now])).size =
      (freshKeys ttl now (history ++ [.store key sql now])).ncard := by
  have hkeys : freshKeys ttl now (history ++ [.store key sql now]) =
      {k | k ∈ (after ttl (history ++ [.store key sql now])).entries.map Entry.key} := by
    ext k
    rw [Set.mem_ofPred_eq, List.mem_map]
    constructor
    · rintro ⟨e, he, hage⟩
      have hfresh : now ≤ e.storedAt + ttl := by omega
      refine ⟨e, mem_of_latest? he fun t ht => ?_, key_of_latest? he⟩
      rw [List.map_append, List.map_singleton] at ht
      rcases List.mem_append.1 ht with ht | ht
      · exact fresh_of_ordered hclock hfresh t ht
      · rw [List.mem_singleton.1 ht]
        exact hfresh
    · rintro ⟨e, he, rfl⟩
      refine ⟨e, latest?_of_mem he, ?_⟩
      rw [after_concat] at he
      rcases mem_setAt_iff.1 he with rfl | ⟨-, hfresh, -⟩
      · simp
      · rw [ttl_after] at hfresh
        omega
  have hnodup : ((after ttl (history ++ [.store key sql now])).entries.map Entry.key).Nodup :=
    uniqueKeys_after ttl _
  rw [hkeys, ← List.coe_toFinset, Set.ncard_coe_finset, List.toFinset_card_of_nodup hnodup,
    List.length_map, Cache.size]

/-- **A cache follows its history.** Whatever the clocks show, what is found was stored last under
the key, not longer than `ttl` before, and a search changes nothing for other keys. When the clocks
do not go back, what was stored last is found as long as it is fresh, and right after storing there
are as many entries as keys whose last entry is fresh. -/
theorem found_iff_latest_fresh (ttl : Nat) (history : List Operation) (key : String) (now : Nat) :
    (∀ sql, ((after ttl history).getAt key now).1 = some sql →
      ∃ e, latest? key history = some e ∧ e.sql = sql ∧ now ≤ e.storedAt + ttl) ∧
    (∀ before between other now', history = before ++ .search other now' :: between →
      other ≠ key → ((after ttl history).getAt key now).1 =
        ((after ttl (before ++ between)).getAt key now).1) ∧
    ((history.map Operation.now ++ [now]).Pairwise (· ≤ ·) →
      ((after ttl history).getAt key now).1 =
          ((latest? key history).filter fun e => now - e.storedAt ≤ ttl).map Entry.sql ∧
        ∀ sql, (after ttl (history ++ [.store key sql now])).size =
          (freshKeys ttl now (history ++ [.store key sql now])).ncard) := by
  refine ⟨fun sql => latest?_of_found, ?_, fun hclock =>
    ⟨found_of_ordered hclock, fun sql => size_of_ordered hclock⟩⟩
  rintro before between other now' rfl hne
  exact found_of_search hne before between now' now

/-- Of two drafts one is stale when the third is stored. -/
theorem found_iff_latest_fresh_swept :
    let history : List Operation := [.store "a" "1" 0, .store "b" "2" 5, .search "a" 7]
    (history.map Operation.now ++ [12]).Pairwise (· ≤ ·) ∧
      ((after 10 history).getAt "b" 12).1 = some "2" ∧
        (after 10 (history ++ [.store "b" "3" 12])).size =
          (freshKeys 10 12 (history ++ [.store "b" "3" 12])).ncard := by
  intro history
  have hclock : (history.map Operation.now ++ [12]).Pairwise (· ≤ ·) := by decide
  obtain ⟨hfound, hsize⟩ := (found_iff_latest_fresh 10 history "b" 12).2.2 hclock
  refine ⟨hclock, ?_, hsize "3"⟩
  rw [hfound]
  decide

end QueryGuard.Proofs.CacheHistory
