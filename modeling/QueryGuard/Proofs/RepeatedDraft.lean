import QueryGuard.Gate.Workflow
import QueryGuard.Proofs.CacheEntries

/-!
Drafts that are asked for one after the other.

A new draft is stored under the key of its request and schema. As long as no clock goes back, the
entry stays while it is fresh: a search does not drop it, a sweep leaves it, and another draft is
stored under its key only if it is not found there. So a request that comes again in that time, with
the schema unchanged, is answered from the store.
-/

namespace QueryGuard.Proofs.RepeatedDraft

open Draft CacheEntries

variable {w : World} {drafter : String → Schema → Except Failure String} {schema : Schema}
variable {request sql : String} {c : Cache}

/-! ### One request -/

/-- A request that has no schema or no drafter to go on with leaves the store as it is. -/
lemma draft_of_unable (h : w.drafter = none ∨ ∃ f, w.database.schema = .error f)
    (request : String) (store : Store) :
    (w.draft request store).2 = store ∧ ¬Call.draft request ∈ (w.draft request store).1.calls := by
  unfold World.draft
  cases hd : w.drafter with
  | none => exact ⟨rfl, List.not_mem_nil⟩
  | some drafter =>
    rcases h with h | ⟨f, hs⟩
    · rw [hd] at h
      cases h
    · rw [hs]
      exact ⟨rfl, by simp⟩

lemma draft_of_found (hd : w.drafter = some drafter) (hs : w.database.schema = .ok schema)
    (hfound : (c.getAt (cacheKey request schema) w.searchedAt).1 = some sql) :
    w.draft request (.memory c) =
      (⟨[.schema], .ok ⟨sql, schema, w.elapsed .schema, 0.0, true⟩⟩,
        .memory (c.getAt (cacheKey request schema) w.searchedAt).2) := by
  unfold World.draft
  rw [hd, hs]
  simp only [Store.getAt]
  rw [hfound]

lemma draft_of_missed (hd : w.drafter = some drafter) (hs : w.database.schema = .ok schema)
    (hmissed : (c.getAt (cacheKey request schema) w.searchedAt).1 = none) :
    w.draft request (.memory c) =
      match drafter request schema with
      | .error f => (⟨[.schema, .draft request], .error f⟩,
          .memory (c.getAt (cacheKey request schema) w.searchedAt).2)
      | .ok sql => (⟨[.schema, .draft request],
          .ok ⟨sql, schema, w.elapsed .schema, w.elapsed .draft, false⟩⟩,
          .memory ((c.getAt (cacheKey request schema) w.searchedAt).2.setAt
            (cacheKey request schema) sql w.storedAt)) := by
  unfold World.draft
  rw [hd, hs]
  simp only [Store.getAt]
  rw [hmissed]
  unfold World.newDraft
  cases drafter request schema <;> rfl

/-- What a request leaves in the store: what a search leaves, and perhaps its draft, if there was
none. -/
lemma store_draft_cases (w : World) (request : String) (c : Cache) :
    (w.draft request (.memory c)).2 = .memory c ∨
      ∃ key, (w.draft request (.memory c)).2 = .memory (c.getAt key w.searchedAt).2 ∨
        ((c.getAt key w.searchedAt).1 = none ∧ ∃ sql, (w.draft request (.memory c)).2 =
          .memory ((c.getAt key w.searchedAt).2.setAt key sql w.storedAt)) := by
  cases hd : w.drafter with
  | none => exact .inl (draft_of_unable (.inl hd) request _).1
  | some drafter =>
    cases hs : w.database.schema with
    | error f => exact .inl (draft_of_unable (.inr ⟨f, hs⟩) request _).1
    | ok schema =>
      refine .inr ⟨cacheKey request schema, ?_⟩
      cases hget : (c.getAt (cacheKey request schema) w.searchedAt).1 with
      | some sql =>
        rw [draft_of_found hd hs hget]
        exact .inl rfl
      | none =>
        rw [draft_of_missed hd hs hget]
        cases drafter request schema with
        | error f => exact .inl rfl
        | ok sql => exact .inr ⟨rfl, sql, rfl⟩

/-- A request that the drafter answered leaves the answer in the store. -/
lemma exists_entry_of_drafted {d : Draft}
    (hcall : Call.draft request ∈ (w.draft request (.memory c)).1.calls)
    (hout : (w.draft request (.memory c)).1.outcome = .ok d) :
    ∃ c', (w.draft request (.memory c)).2 = .memory c' ∧
      ⟨cacheKey request d.schema, d.sql, w.storedAt⟩ ∈ c'.entries := by
  cases hd : w.drafter with
  | none => exact absurd hcall (draft_of_unable (.inl hd) request _).2
  | some drafter =>
    cases hs : w.database.schema with
    | error f => exact absurd hcall (draft_of_unable (.inr ⟨f, hs⟩) request _).2
    | ok schema =>
      cases hget : (c.getAt (cacheKey request schema) w.searchedAt).1 with
      | some sql =>
        rw [draft_of_found hd hs hget] at hcall
        simp at hcall
      | none =>
        rw [draft_of_missed hd hs hget] at hout ⊢
        cases hdraft : drafter request schema with
        | error f =>
          rw [hdraft] at hout
          cases hout
        | ok sql =>
          rw [hdraft] at hout
          obtain rfl := Except.ok.inj hout
          exact ⟨_, rfl, mem_setAt_iff.2 (.inl rfl)⟩

/-! ### Many requests -/

/-- The store after requests one after the other, each in a world of its own. -/
def serve (store : Store) (visits : List (World × String)) : Store :=
  visits.foldl (fun store v => (v.1.draft v.2 store).2) store

/-- The clock readings of requests one after the other. -/
def readings (visits : List (World × String)) : List Nat :=
  visits.flatMap fun v => [v.1.searchedAt, v.1.storedAt]

/-- A store in memory with one entry for each key. -/
def Orderly (ttl : Nat) (store : Store) : Prop :=
  ∃ c, store = .memory c ∧ c.ttl = ttl ∧ UniqueKeys c

/-- The entry is in the store. -/
def Holds (e : Entry) (store : Store) : Prop := ∃ c, store = .memory c ∧ e ∈ c.entries

variable {ttl : Nat} {store : Store} {e : Entry}

lemma orderly_draft (h : Orderly ttl store) (w : World) (request : String) :
    Orderly ttl (w.draft request store).2 := by
  obtain ⟨c, rfl, rfl, hu⟩ := h
  rcases store_draft_cases w request c with hs | ⟨key, hs | ⟨-, sql, hs⟩⟩
  · exact ⟨c, hs, rfl, hu⟩
  · exact ⟨_, hs, ttl_getAt c key _, hu.getAt key _⟩
  · exact ⟨_, hs, ttl_getAt c key _, (hu.getAt key _).setAt key sql _⟩

lemma orderly_serve (h : Orderly ttl store) (visits : List (World × String)) :
    Orderly ttl (serve store visits) := by
  induction visits generalizing store with
  | nil => exact h
  | cons v visits ih => exact ih (orderly_draft h v.1 v.2)

/-- An entry that is fresh at the search and at the sweep stays: another draft under its key is
stored only if the search does not find it. -/
lemma holds_draft (h : Orderly ttl store) (he : Holds e store)
    (hsearch : w.searchedAt ≤ e.storedAt + ttl) (hsweep : w.storedAt ≤ e.storedAt + ttl)
    (request : String) : Holds e (w.draft request store).2 := by
  obtain ⟨c, rfl, rfl, hu⟩ := h
  obtain ⟨_, hc, he⟩ := he
  obtain rfl := Store.memory.inj hc
  rcases store_draft_cases w request c with hs | ⟨key, hs | ⟨hmissed, sql, hs⟩⟩
  · exact ⟨c, hs, he⟩
  · exact ⟨_, hs, mem_getAt hu he hsearch key⟩
  · refine ⟨_, hs, mem_setAt_iff.2 (.inr ⟨mem_getAt hu he hsearch key, ?_, ?_⟩)⟩
    · rw [ttl_getAt]
      exact hsweep
    · rintro rfl
      rw [getAt_of_mem hu he hsearch] at hmissed
      cases hmissed

lemma holds_serve (h : Orderly ttl store) (he : Holds e store) {visits : List (World × String)}
    (hfresh : ∀ t ∈ readings visits, t ≤ e.storedAt + ttl) : Holds e (serve store visits) := by
  induction visits generalizing store with
  | nil => exact he
  | cons v visits ih =>
    have hhead : ∀ t ∈ [v.1.searchedAt, v.1.storedAt], t ≤ e.storedAt + ttl :=
      fun t ht => hfresh t (List.mem_append_left _ ht)
    refine ih (orderly_draft h v.1 v.2) ?_ fun t ht => hfresh t (List.mem_append_right _ ht)
    exact holds_draft h he (hhead _ (by simp)) (hhead _ (by simp)) v.2

/-- **Repeated requests.** Of requests one after the other, with clocks that do not go back, one was
answered by the drafter. When it comes again with the schema unchanged, and the draft was stored
not longer than `ttl` ago, the draft is found and the drafter is not asked. -/
theorem draft_of_repeated {before between : List (World × String)} {w' : World} {d : Draft}
    (hclock : (readings (before ++ (w, request) :: between) ++ [w'.searchedAt]).Pairwise (· ≤ ·))
    (hcall : Call.draft request ∈
      (w.draft request (serve (.memory (.empty ttl)) before)).1.calls)
    (hout : (w.draft request (serve (.memory (.empty ttl)) before)).1.outcome = .ok d)
    (hschema : w'.database.schema = .ok d.schema) (hdrafter : w'.drafter.isSome = true)
    (hfresh : w'.searchedAt ≤ w.storedAt + ttl) :
    (w'.draft request (serve (.memory (.empty ttl)) (before ++ (w, request) :: between))).1 =
      ⟨[.schema], .ok ⟨d.sql, d.schema, w'.elapsed .schema, 0.0, true⟩⟩ := by
  have hempty : Orderly ttl (.memory (.empty ttl)) := ⟨_, rfl, rfl, uniqueKeys_empty ttl⟩
  have hbefore := orderly_serve hempty before
  have hserve : serve (.memory (.empty ttl)) (before ++ (w, request) :: between) =
      serve (w.draft request (serve (.memory (.empty ttl)) before)).2 between := by
    unfold serve
    rw [List.foldl_append, List.foldl_cons]
  have hbetween : ∀ t ∈ readings between, t ≤ w.storedAt + ttl := by
    intro t ht
    have hlast : t ≤ w'.searchedAt := by
      refine (List.pairwise_append.1 hclock).2.2 t ?_ _ List.mem_cons_self
      unfold readings at ht ⊢
      rw [List.flatMap_append, List.flatMap_cons]
      exact List.mem_append_right _ (List.mem_append_right _ ht)
    omega
  have hstored : Holds ⟨cacheKey request d.schema, d.sql, w.storedAt⟩
      (w.draft request (serve (.memory (.empty ttl)) before)).2 := by
    obtain ⟨c, hc, -, -⟩ := hbefore
    rw [hc] at hcall hout ⊢
    exact exists_entry_of_drafted hcall hout
  have hheld := holds_serve (orderly_draft hbefore w request) hstored hbetween
  obtain ⟨c, hc, httl, hu⟩ := orderly_serve (orderly_draft hbefore w request) between
  obtain ⟨c', hc', he⟩ := hheld
  rw [hc] at hc'
  obtain rfl := Store.memory.inj hc'
  obtain ⟨drafter, hd⟩ := Option.isSome_iff_exists.1 hdrafter
  have hlive : w'.searchedAt ≤ w.storedAt + c.ttl := by
    rw [httl]
    exact hfresh
  have hget := getAt_of_mem hu he hlive
  rw [hserve, hc, draft_of_found hd hschema (congrArg Prod.fst hget)]

end QueryGuard.Proofs.RepeatedDraft
