import Mathlib.Data.List.Induction
import Mathlib.Data.Set.Function
import QueryGuard.Proofs.DraftKey
import QueryGuard.Proofs.RepeatedDraft

/-!
Drafts that are asked for at the same time.

Calls that share a store take their steps in any order: each asks for the schema, searches the
store, asks the drafter if nothing was found, and stores what it is given. Every entry was given by
the drafter to a call that then stored it, for the request and the schema that its key stands for.
So what a call finds in the store is a draft for its own request and its own schema, as long as
digests do not collide.
-/

namespace QueryGuard.Proofs.SharedDrafts

open Draft CacheEntries DraftKey RepeatedDraft

/-- Who asks for a draft. -/
structure Caller where
  request : String
  elapsed : Stage → Float

/-- How far a call has come. -/
inductive Progress where
  | begun
  | described (schema : Schema)
  | missed (schema : Schema)
  | drafted (schema : Schema) (sql : String)
  | ended (outcome : Except Failure Draft)

/-- A step of a call, with the answer that it gets or the time at which it is taken. -/
inductive Event where
  | schema (answer : Except Failure Schema)
  | search (now : Nat)
  | draft (answer : Except Failure String)
  | keep (now : Nat)

/-- What a step makes of a call and of the cache. -/
inductive Step (caller : Caller) : Progress → Cache → Event → Progress → Cache → Prop
  | undescribed (c : Cache) (f : Failure) :
      Step caller .begun c (.schema (.error f)) (.ended (.error f)) c
  | described (c : Cache) (schema : Schema) :
      Step caller .begun c (.schema (.ok schema)) (.described schema) c
  | found {c : Cache} {schema : Schema} {now : Nat} {sql : String}
      (h : (c.getAt (cacheKey caller.request schema) now).1 = some sql) :
      Step caller (.described schema) c (.search now)
        (.ended (.ok ⟨sql, schema, caller.elapsed .schema, 0.0, true⟩))
        (c.getAt (cacheKey caller.request schema) now).2
  | missed {c : Cache} {schema : Schema} {now : Nat}
      (h : (c.getAt (cacheKey caller.request schema) now).1 = none) :
      Step caller (.described schema) c (.search now) (.missed schema)
        (c.getAt (cacheKey caller.request schema) now).2
  | undrafted (c : Cache) (schema : Schema) (f : Failure) :
      Step caller (.missed schema) c (.draft (.error f)) (.ended (.error f)) c
  | drafted (c : Cache) (schema : Schema) (sql : String) :
      Step caller (.missed schema) c (.draft (.ok sql)) (.drafted schema sql) c
  | kept (c : Cache) (schema : Schema) (sql : String) (now : Nat) :
      Step caller (.drafted schema sql) c (.keep now)
        (.ended (.ok ⟨sql, schema, caller.elapsed .schema, caller.elapsed .draft, false⟩))
        (c.setAt (cacheKey caller.request schema) sql now)

/-- The cache that all calls share, and each call. -/
structure Shared where
  cache : Cache
  progress : Nat → Progress

namespace Shared

/-- After a step of call `i`. -/
def moved (s : Shared) (i : Nat) (p : Progress) (c : Cache) : Shared :=
  ⟨c, Function.update s.progress i p⟩

variable (s : Shared) (i : Nat) (p : Progress) (c : Cache)

@[simp] lemma progress_moved_self : (s.moved i p c).progress i = p := Function.update_self ..

lemma progress_moved_of_ne {j : Nat} (h : j ≠ i) : (s.moved i p c).progress j = s.progress j :=
  Function.update_of_ne h ..

end Shared

/-- Steps of any of the calls, one after the other, from an empty cache. -/
inductive Run (callers : Nat → Caller) (ttl : Nat) : List (Nat × Event) → Shared → Prop
  | start : Run callers ttl [] ⟨.empty ttl, fun _ => .begun⟩
  | step {trace : List (Nat × Event)} {s : Shared} {i : Nat} {e : Event} {p : Progress} {c : Cache}
      (h : Run callers ttl trace s) (hs : Step (callers i) (s.progress i) s.cache e p c) :
      Run callers ttl (trace ++ [(i, e)]) (s.moved i p c)

variable {callers : Nat → Caller} {ttl : Nat} {trace : List (Nat × Event)} {s : Shared}

/-! ### A call by itself -/

/-- A call that no other call interrupts. -/
inductive Alone (caller : Caller) : Progress → Cache → List Event → Progress → Cache → Prop
  | nil (p : Progress) (c : Cache) : Alone caller p c [] p c
  | cons {p p' p'' : Progress} {c c' c'' : Cache} {e : Event} {es : List Event}
      (h : Step caller p c e p' c') (hs : Alone caller p' c' es p'' c'') :
      Alone caller p c (e :: es) p'' c''

/-- What an event tells is so in the world. -/
def Answers (w : World) (drafter : String → Schema → Except Failure String) (request : String) :
    Event → Prop
  | .schema answer => answer = w.database.schema
  | .search now => now = w.searchedAt
  | .draft answer => ∃ schema, w.database.schema = .ok schema ∧ answer = drafter request schema
  | .keep now => now = w.storedAt

/-- What is asked of the database or the drafter in a step. -/
def Event.call? (request : String) : Event → Option Call
  | .schema _ => some .schema
  | .draft _ => some (.draft request)
  | _ => none

/-- A call by itself takes these steps, and comes to the outcome and the store of a draft. -/
lemma draft_alone {w : World} {drafter : String → Schema → Except Failure String}
    (hd : w.drafter = some drafter) (request : String) (c : Cache) :
    ∃ events c', (∀ e ∈ events, Answers w drafter request e) ∧
      Alone ⟨request, w.elapsed⟩ .begun c events
        (.ended (w.draft request (.memory c)).1.outcome) c' ∧
      (w.draft request (.memory c)).1.calls = events.filterMap (Event.call? request) ∧
      (w.draft request (.memory c)).2 = .memory c' := by
  cases hs : w.database.schema with
  | error f =>
    have hdraft : w.draft request (.memory c) = (⟨[.schema], .error f⟩, .memory c) := by
      unfold World.draft
      rw [hd, hs]
    rw [hdraft]
    refine ⟨[.schema (.error f)], c, ?_, .cons (.undescribed c f) (.nil _ _), rfl, rfl⟩
    exact List.forall_mem_singleton.2 hs.symm
  | ok schema =>
    cases hget : (c.getAt (cacheKey request schema) w.searchedAt).1 with
    | some sql =>
      rw [draft_of_found hd hs hget]
      refine ⟨[.schema (.ok schema), .search w.searchedAt], _, ?_,
        .cons (.described c schema) (.cons (.found hget) (.nil _ _)), rfl, rfl⟩
      simp [Answers, hs]
    | none =>
      rw [draft_of_missed hd hs hget]
      cases hdraft : drafter request schema with
      | error f =>
        refine ⟨[.schema (.ok schema), .search w.searchedAt, .draft (.error f)], _, ?_,
          .cons (.described c schema) (.cons (.missed hget) (.cons (.undrafted _ schema f)
            (.nil _ _))), rfl, rfl⟩
        simp [Answers, hs, hdraft]
      | ok sql =>
        refine ⟨[.schema (.ok schema), .search w.searchedAt, .draft (.ok sql), .keep w.storedAt],
          _, ?_, .cons (.described c schema) (.cons (.missed hget) (.cons (.drafted _ schema sql)
            (.cons (.kept _ schema sql w.storedAt) (.nil _ _)))), rfl, rfl⟩
        simp [Answers, hs, hdraft]

/-- After any steps of the calls one of them may go on alone. -/
lemma Run.append_alone {i : Nat} {p p' : Progress} {c c' : Cache} {events : List Event}
    (ha : Alone (callers i) p c events p' c') (h : Run callers ttl trace s)
    (hp : s.progress i = p) (hc : s.cache = c) :
    ∃ s', Run callers ttl (trace ++ events.map (i, ·)) s' ∧ s'.progress i = p' ∧
      s'.cache = c' := by
  induction ha generalizing trace s with
  | nil => exact ⟨s, by simpa using h, hp, hc⟩
  | @cons p p₁ _ c c₁ _ e events hstep _ ih =>
    subst hp hc
    obtain ⟨s', hrun, hend⟩ := ih (h.step hstep) (s.progress_moved_self i p₁ c₁) rfl
    rw [List.append_assoc] at hrun
    exact ⟨s', hrun, hend⟩

lemma draft_of_run {i : Nat} {w : World} {drafter : String → Schema → Except Failure String}
    (h : Run callers ttl trace s) (hbegun : s.progress i = .begun) (hd : w.drafter = some drafter)
    (helapsed : w.elapsed = (callers i).elapsed) :
    ∃ (events : List Event) (s' : Shared),
      (∀ e ∈ events, Answers w drafter (callers i).request e) ∧
      Run callers ttl (trace ++ events.map (i, ·)) s' ∧
      s'.progress i = .ended (w.draft (callers i).request (.memory s.cache)).1.outcome ∧
      (w.draft (callers i).request (.memory s.cache)).1.calls =
        events.filterMap (Event.call? (callers i).request) ∧
      (w.draft (callers i).request (.memory s.cache)).2 = .memory s'.cache := by
  obtain ⟨events, c', hanswers, halone, hcalls, hstore⟩ :=
    draft_alone hd (callers i).request s.cache
  rw [helapsed] at halone
  obtain ⟨s', hrun, hend, rfl⟩ := h.append_alone halone hbegun rfl
  exact ⟨events, s', hanswers, hrun, hend, hcalls, hstore⟩

/-! ### Where drafts come from -/

/-- In the trace the drafter gave call `j` a draft for the schema, and the call stored it. -/
def StoredBy (trace : List (Nat × Event)) (j : Nat) (schema : Schema) (sql : String) (now : Nat) :
    Prop :=
  [(j, .schema (.ok schema)), (j, .draft (.ok sql)), (j, .keep now)].Sublist trace

/-- What the trace tells of a call that has come so far. -/
def Told (callers : Nat → Caller) (ttl : Nat) (trace : List (Nat × Event)) (i : Nat) :
    Progress → Prop
  | .begun => True
  | .described schema => (i, .schema (.ok schema)) ∈ trace
  | .missed schema => (i, .schema (.ok schema)) ∈ trace
  | .drafted schema sql => [(i, .schema (.ok schema)), (i, .draft (.ok sql))].Sublist trace
  | .ended (.error _) => True
  | .ended (.ok d) => d.cacheHit = true → ∃ before now after j schema stored,
      trace = before ++ (i, .search now) :: after ∧ (i, .schema (.ok d.schema)) ∈ before ∧
        StoredBy before j schema d.sql stored ∧ now ≤ stored + ttl ∧
        cacheKey (callers i).request d.schema = cacheKey (callers j).request schema

/-- Each entry was stored by one of the calls, under the key of its request and schema. -/
def Origins (callers : Nat → Caller) (trace : List (Nat × Event)) (c : Cache) : Prop :=
  ∀ x ∈ c.entries, ∃ j schema, x.key = cacheKey (callers j).request schema ∧
    StoredBy trace j schema x.sql x.storedAt

/-- What holds of calls and cache after the steps of the trace. -/
structure Inv (callers : Nat → Caller) (ttl : Nat) (trace : List (Nat × Event)) (s : Shared) :
    Prop where
  ttl_eq : s.cache.ttl = ttl
  unique : UniqueKeys s.cache
  told : ∀ i, Told callers ttl trace i (s.progress i)
  unkept : ∀ i, (∀ d, s.progress i ≠ .ended (.ok d)) → ∀ now, (i, .keep now) ∉ trace
  origin : Origins callers trace s.cache

lemma StoredBy.append {j : Nat} {schema : Schema} {sql : String} {now : Nat}
    (h : StoredBy trace j schema sql now) (more : List (Nat × Event)) :
    StoredBy (trace ++ more) j schema sql now :=
  h.trans (List.sublist_append_left _ _)

lemma Told.append {i : Nat} {p : Progress} (h : Told callers ttl trace i p)
    (more : List (Nat × Event)) : Told callers ttl (trace ++ more) i p := by
  match p, h with
  | .begun, _ => trivial
  | .described _, h => exact List.mem_append_left _ h
  | .missed _, h => exact List.mem_append_left _ h
  | .drafted _ _, h => exact h.trans (List.sublist_append_left _ _)
  | .ended (.error _), _ => trivial
  | .ended (.ok _), h =>
    intro hhit
    obtain ⟨before, now, after, j, schema, stored, rfl, hrest⟩ := h hhit
    exact ⟨before, now, after ++ more, j, schema, stored, by simp, hrest⟩

/-! ### One step -/

section Step

variable {caller : Caller} {i : Nat} {e : Event} {p p' : Progress} {c c' : Cache}

lemma ttl_step (hs : Step caller p c e p' c') : c'.ttl = c.ttl := by
  cases hs with
  | found _ => exact ttl_getAt _ _ _
  | missed _ => exact ttl_getAt _ _ _
  | kept _ _ _ _ => exact ttl_setAt _ _ _ _
  | _ => rfl

lemma uniqueKeys_step (hs : Step caller p c e p' c') (hu : UniqueKeys c) : UniqueKeys c' := by
  cases hs with
  | found _ => exact hu.getAt _ _
  | missed _ => exact hu.getAt _ _
  | kept _ _ _ _ => exact hu.setAt _ _ _
  | _ => exact hu

/-- A call that has ended takes no step. -/
lemma not_ended_of_step (hs : Step caller p c e p' c') (o : Except Failure Draft) :
    p ≠ .ended o := by
  cases hs <;> exact fun h => nomatch h

/-- Storing is the last step of a call that gets its draft. -/
lemma ne_keep_of_step (hs : Step caller p c e p' c') (hp : ∀ d, p' ≠ .ended (.ok d)) (now : Nat) :
    e ≠ .keep now := by
  cases hs with
  | kept _ _ _ _ => exact absurd rfl (hp _)
  | _ => exact fun h => nomatch h

lemma told_step (hs : Step (callers i) p c e p' c') (hp : Told callers ttl trace i p)
    (httl : c.ttl = ttl) (ho : Origins callers trace c) :
    Told callers ttl (trace ++ [(i, e)]) i p' := by
  cases hs with
  | undescribed _ _ => trivial
  | described _ schema => exact List.mem_append_right _ List.mem_cons_self
  | found h =>
    intro _
    obtain ⟨-, x, hx, hkey, hsql, hfresh⟩ := getAt_eq_some h
    obtain ⟨j, schema, hkey', hstored⟩ := ho x hx
    rw [hsql] at hstored
    rw [httl] at hfresh
    exact ⟨trace, _, [], j, schema, x.storedAt, rfl, hp, hstored, hfresh, hkey.symm.trans hkey'⟩
  | missed _ => exact Told.append (p := .missed _) hp _
  | undrafted _ _ _ => trivial
  | drafted _ schema sql =>
    exact (List.singleton_sublist.2 hp).append (List.Sublist.refl [(i, Event.draft (.ok sql))])
  | kept _ _ _ _ => exact fun h => nomatch h

lemma origins_step (hs : Step (callers i) p c e p' c') (hp : Told callers ttl trace i p)
    (ho : Origins callers trace c) : Origins callers (trace ++ [(i, e)]) c' := by
  have hold : ∀ x ∈ c.entries, ∃ j schema, x.key = cacheKey (callers j).request schema ∧
      StoredBy (trace ++ [(i, e)]) j schema x.sql x.storedAt := by
    intro x hx
    obtain ⟨j, schema, hkey, hstored⟩ := ho x hx
    exact ⟨j, schema, hkey, hstored.append _⟩
  intro x hx
  cases hs with
  | found _ => exact hold x ((sublist_getAt _ _ _).subset hx)
  | missed _ => exact hold x ((sublist_getAt _ _ _).subset hx)
  | kept _ schema sql now =>
    rcases mem_setAt_iff.1 hx with rfl | ⟨hx, -, -⟩
    · exact ⟨i, schema, rfl, List.Sublist.append hp (List.Sublist.refl [(i, Event.keep now)])⟩
    · exact hold x hx
  | _ => exact hold x hx

end Step

/-- **One step** keeps what is known of calls and cache. -/
lemma inv_step (h : Inv callers ttl trace s) {i : Nat} {e : Event} {p : Progress} {c : Cache}
    (hs : Step (callers i) (s.progress i) s.cache e p c) :
    Inv callers ttl (trace ++ [(i, e)]) (s.moved i p c) where
  ttl_eq := (ttl_step hs).trans h.ttl_eq
  unique := uniqueKeys_step hs h.unique
  told := by
    intro j
    by_cases hj : j = i
    · subst hj
      rw [Shared.progress_moved_self]
      exact told_step hs (h.told j) h.ttl_eq h.origin
    · rw [Shared.progress_moved_of_ne _ _ _ _ hj]
      exact (h.told j).append _
  unkept := by
    intro j hend now hm
    rcases List.mem_append.1 hm with hm | hm
    · refine h.unkept j (fun d hd => ?_) now hm
      by_cases hj : j = i
      · subst hj
        exact not_ended_of_step hs (.ok d) hd
      · exact hend d (by rw [Shared.progress_moved_of_ne _ _ _ _ hj]; exact hd)
    · obtain ⟨rfl, rfl⟩ := Prod.mk.inj (List.mem_singleton.1 hm)
      refine ne_keep_of_step hs (fun d hd => hend d ?_) now rfl
      rw [Shared.progress_moved_self]
      exact hd
  origin := origins_step hs (h.told i) h.origin

/-- **All steps** keep it. -/
lemma inv_run (h : Run callers ttl trace s) : Inv callers ttl trace s := by
  induction h with
  | start =>
    exact
      { ttl_eq := rfl
        unique := uniqueKeys_empty ttl
        told := fun _ => trivial
        unkept := fun _ _ _ => List.not_mem_nil
        origin := fun _ h => nomatch h }
  | step _ hs ih => exact inv_step ih hs

/-! ### Calls that fail -/

lemma Run.exists_of_concat {i : Nat} {e : Event} {s' : Shared}
    (h : Run callers ttl (trace ++ [(i, e)]) s') :
    ∃ s p c, Run callers ttl trace s ∧ Step (callers i) (s.progress i) s.cache e p c ∧
      s' = s.moved i p c := by
  generalize ht : trace ++ [(i, e)] = t at h
  cases h with
  | start => simp at ht
  | @step trace' s j e' p c hrun hs =>
    obtain ⟨rfl, hlast⟩ := List.append_inj' ht rfl
    obtain ⟨rfl, rfl⟩ := Prod.mk.inj (List.singleton_injective hlast)
    exact ⟨s, p, c, hrun, hs, rfl⟩

/-- A run has been through its beginnings. -/
lemma Run.exists_of_append {more : List (Nat × Event)}
    (h : Run callers ttl (trace ++ more) s) : ∃ s', Run callers ttl trace s' := by
  induction more using List.reverseRecOn generalizing s with
  | nil => exact ⟨s, by simpa using h⟩
  | append_singleton more x ih =>
    rw [← List.append_assoc] at h
    obtain ⟨s', -, -, hrun, -⟩ := h.exists_of_concat
    exact ih hrun

/-- Any step but storing leaves the cache as it is, or drops an entry that is stale. -/
lemma cache_of_ne_keep {caller : Caller} {p p' : Progress} {c c' : Cache} {e : Event}
    (hs : Step caller p c e p' c') (he : ∀ now, e ≠ .keep now) :
    c' = c ∨ ∃ now x, e = .search now ∧ x ∈ c.entries ∧ x.storedAt + c.ttl < now ∧
      c' = c.remove x.key := by
  cases hs with
  | found h => exact .inl (getAt_eq_some h).1
  | @missed c schema now h =>
    rcases getAt_cases c (cacheKey caller.request schema) now with
      ⟨-, hget⟩ | ⟨x, -, -, hget⟩ | ⟨x, hentry, hstale, hget⟩
    · exact .inl (congrArg Prod.snd hget)
    · exact .inl (congrArg Prod.snd hget)
    · obtain ⟨hx, hkey⟩ := mem_of_entry? hentry
      refine .inr ⟨now, x, rfl, hx, by omega, ?_⟩
      rw [hkey]
      exact congrArg Prod.snd hget
  | kept _ _ _ now => exact absurd rfl (he now)
  | _ => exact .inl rfl

lemma cache_of_failed (h : Run callers ttl trace s) {i : Nat} {f : Failure}
    (hi : s.progress i = .ended (.error f)) {before after : List (Nat × Event)} {e : Event}
    (ht : trace = before ++ (i, e) :: after) :
    ∃ s₁ s₂, Run callers ttl before s₁ ∧ Run callers ttl (before ++ [(i, e)]) s₂ ∧
      (s₂.cache = s₁.cache ∨ ∃ now x, e = .search now ∧ x ∈ s₁.cache.entries ∧
        x.storedAt + ttl < now ∧ s₂.cache = s₁.cache.remove x.key) := by
  have hkeep : ∀ now, e ≠ .keep now := by
    rintro now rfl
    refine (inv_run h).unkept i (fun d hd => ?_) now (by simp [ht])
    rw [hi] at hd
    cases hd
  have hcut : trace = (before ++ [(i, e)]) ++ after := by simp [ht]
  rw [hcut] at h
  obtain ⟨s₂, h₂⟩ := h.exists_of_append
  obtain ⟨s₁, p, c, h₁, hs, rfl⟩ := h₂.exists_of_concat
  refine ⟨s₁, _, h₁, h₂, ?_⟩
  have hcache := cache_of_ne_keep hs hkeep
  rw [(inv_run h₁).ttl_eq] at hcache
  exact hcache

/-! ### No mixing up -/

/-- The texts whose digests are the keys of the calls. -/
def keyTexts (callers : Nat → Caller) (trace : List (Nat × Event)) : Set String :=
  {text | ∃ i schema, (i, .schema (.ok schema)) ∈ trace ∧
    text = keyText (callers i).request schema}

/-- Equal keys stand for equal requests and schemas, where digests do not collide. -/
lemma eq_of_cacheKey_eq
    (hsha : Set.InjOn (fun text : String => Sha256.digest text.toUTF8.toList)
      (keyTexts callers trace))
    {i j : Nat} {schema schema' : Schema} (hi : (i, .schema (.ok schema)) ∈ trace)
    (hj : (j, .schema (.ok schema')) ∈ trace)
    (hkey : cacheKey (callers i).request schema = cacheKey (callers j).request schema') :
    (callers i).request = (callers j).request ∧ schema = schema' :=
  keyText_inj (hsha ⟨i, schema, hi, rfl⟩ ⟨j, schema', hj, rfl⟩ (digest_eq_of_hex_eq hkey))

lemma hit_of_run (h : Run callers ttl trace s)
    (hsha : Set.InjOn (fun text : String => Sha256.digest text.toUTF8.toList)
      (keyTexts callers trace))
    {i : Nat} {d : Draft} (hi : s.progress i = .ended (.ok d)) (hhit : d.cacheHit = true) :
    ∃ before now after j stored, trace = before ++ (i, .search now) :: after ∧
      (i, .schema (.ok d.schema)) ∈ before ∧ (callers j).request = (callers i).request ∧
        StoredBy before j d.schema d.sql stored ∧ now ≤ stored + ttl := by
  have htold := (inv_run h).told i
  rw [hi] at htold
  obtain ⟨before, now, after, j, schema, stored, ht, hmem, hstored, hfresh, hkey⟩ := htold hhit
  have hsub : ∀ x ∈ before, x ∈ trace := by
    intro x hx
    rw [ht]
    exact List.mem_append_left _ hx
  obtain ⟨hrequest, rfl⟩ := eq_of_cacheKey_eq hsha (hsub _ hmem)
    (hsub _ (hstored.subset List.mem_cons_self)) hkey
  exact ⟨before, now, after, j, stored, ht, hmem, hrequest.symm, hstored, hfresh⟩

/-- **Drafts are not mixed up.** Calls share a store and take their steps in any order, with any
answers and any clock readings. Where the digests of their keys do not collide, a call that finds a
draft finds one that the drafter gave, before the search, to a call with the same request and the
same schema, and that was stored not longer than `ttl` before the time of the search. A call that
fails stores nothing: its steps leave the cache as it is, but for a search, which drops an entry
that is stale. A call that goes on without the others takes the steps of a draft: it makes the same
requests, and comes to the same outcome and the same store. And of requests one after the other,
with clocks that do not go back, one that comes again within `ttl`, with the schema unchanged, does
not ask the drafter again. -/
theorem drafts_not_mixed_up (hrun : Run callers ttl trace s)
    (hsha : Set.InjOn (fun text : String => Sha256.digest text.toUTF8.toList)
      (keyTexts callers trace)) :
    (∀ i d, s.progress i = .ended (.ok d) → d.cacheHit = true →
      ∃ before now after j stored, trace = before ++ (i, .search now) :: after ∧
        (i, .schema (.ok d.schema)) ∈ before ∧ (callers j).request = (callers i).request ∧
          StoredBy before j d.schema d.sql stored ∧ now ≤ stored + ttl) ∧
    (∀ i f, s.progress i = .ended (.error f) → ∀ before e after,
      trace = before ++ (i, e) :: after →
      ∃ s₁ s₂, Run callers ttl before s₁ ∧ Run callers ttl (before ++ [(i, e)]) s₂ ∧
        (s₂.cache = s₁.cache ∨ ∃ now x, e = .search now ∧ x ∈ s₁.cache.entries ∧
          x.storedAt + ttl < now ∧ s₂.cache = s₁.cache.remove x.key)) ∧
    (∀ i w drafter, s.progress i = .begun → w.drafter = some drafter →
      w.elapsed = (callers i).elapsed →
      ∃ (events : List Event) (s' : Shared),
        (∀ e ∈ events, Answers w drafter (callers i).request e) ∧
        Run callers ttl (trace ++ events.map (i, ·)) s' ∧
        s'.progress i = .ended (w.draft (callers i).request (.memory s.cache)).1.outcome ∧
        (w.draft (callers i).request (.memory s.cache)).1.calls =
          events.filterMap (Event.call? (callers i).request) ∧
        (w.draft (callers i).request (.memory s.cache)).2 = .memory s'.cache) ∧
    ∀ (before between : List (World × String)) (w w' : World) (request : String) (d : Draft),
      (readings (before ++ (w, request) :: between) ++ [w'.searchedAt]).Pairwise (· ≤ ·) →
      Call.draft request ∈
        (w.draft request (serve (.memory (.empty ttl)) before)).1.calls →
      (w.draft request (serve (.memory (.empty ttl)) before)).1.outcome = .ok d →
      w'.database.schema = .ok d.schema → w'.drafter.isSome = true →
      w'.searchedAt ≤ w.storedAt + ttl →
      (w'.draft request (serve (.memory (.empty ttl)) (before ++ (w, request) :: between))).1 =
        ⟨[.schema], .ok ⟨d.sql, d.schema, w'.elapsed .schema, 0.0, true⟩⟩ :=
  ⟨fun _ _ hi hhit => hit_of_run hrun hsha hi hhit,
    fun _ _ hi _ _ _ ht => cache_of_failed hrun hi ht,
    fun _ _ _ hbegun hd helapsed => draft_of_run hrun hbegun hd helapsed,
    fun _ _ _ _ _ _ hclock hcall hout hschema hdrafter hfresh =>
      draft_of_repeated hclock hcall hout hschema hdrafter hfresh⟩

/-- Everyone asks for the same. -/
def alike : Nat → Caller := fun _ => ⟨"How many users?", fun _ => 0⟩

/-- Two calls: the second begins while the first waits for the drafter, and finds its draft seven
units after it was stored. -/
def twoCalls : List (Nat × Event) :=
  [(0, .schema (.ok .empty)), (0, .search 0), (1, .schema (.ok .empty)),
    (0, .draft (.ok "SELECT 1")), (0, .keep 5), (1, .search 12)]

/-- A world at one time, in which the drafter answers. -/
def answering (now : Nat) : World :=
  ⟨⟨.sqlite, fun _ => .ok .empty, fun _ => .ok .empty, fun _ => .ok 0, .ok .empty⟩,
    some fun _ _ => .ok "SELECT 1", now, now, fun _ => 0⟩

lemma run_twoCalls :
    ∃ s, Run alike 10 twoCalls s ∧
      s.progress 1 = .ended (.ok ⟨"SELECT 1", .empty, 0, 0.0, true⟩) := by
  have h0 : Run alike 10 [] _ := .start
  have h1 : Run alike 10 [(0, .schema (.ok .empty))] _ := h0.step (.described _ _)
  have h2 : Run alike 10 (_ ++ [(0, .search 0)]) _ := h1.step (.missed rfl)
  have h3 : Run alike 10 (_ ++ [(1, .schema (.ok .empty))]) _ := h2.step (.described _ _)
  have h4 : Run alike 10 (_ ++ [(0, .draft (.ok "SELECT 1"))]) _ := h3.step (.drafted _ _ _)
  have h5 : Run alike 10 (_ ++ [(0, .keep 5)]) _ := h4.step (.kept _ _ _ _)
  have hfound := getAt_of_mem (inv_run h5).unique (mem_setAt_iff.2 (.inl rfl))
    (show 12 ≤ 5 + 10 by decide)
  have h6 : Run alike 10 (_ ++ [(1, .search 12)]) _ := h5.step (.found (congrArg Prod.fst hfound))
  exact ⟨_, h6, rfl⟩

/-- The second of the two calls finds the draft of the first. A request that comes ten units after
its draft was stored finds it as well. -/
theorem drafts_not_mixed_up_two_calls :
    (∃ s d, Run alike 10 twoCalls s ∧
      Set.InjOn (fun text : String => Sha256.digest text.toUTF8.toList)
        (keyTexts alike twoCalls) ∧
      s.progress 1 = .ended (.ok d) ∧ d.cacheHit = true ∧
      ∃ before now after j stored, twoCalls = before ++ (1, .search now) :: after ∧
        (1, .schema (.ok d.schema)) ∈ before ∧ (alike j).request = (alike 1).request ∧
          StoredBy before j d.schema d.sql stored ∧ now ≤ stored + 10) ∧
    ((answering 15).draft "How many users?"
        (serve (.memory (.empty 10)) [(answering 5, "How many users?")])).1 =
      ⟨[.schema], .ok ⟨"SELECT 1", .empty, 0, 0.0, true⟩⟩ := by
  obtain ⟨s, hrun, hi⟩ := run_twoCalls
  have hone : ∀ {i : Nat} {schema : Schema}, (i, .schema (.ok schema)) ∈ twoCalls →
      schema = .empty := by
    intro i schema hm
    simp only [twoCalls, List.mem_cons, Prod.mk.injEq, Event.schema.injEq, Except.ok.injEq,
      reduceCtorEq, and_false, List.not_mem_nil, or_false, false_or] at hm
    exact hm.elim And.right And.right
  have hsha : Set.InjOn (fun text : String => Sha256.digest text.toUTF8.toList)
      (keyTexts alike twoCalls) := by
    rintro _ ⟨i, schema, hm, rfl⟩ _ ⟨j, schema', hm', rfl⟩ -
    rw [hone hm, hone hm']
    rfl
  obtain ⟨hfinds, -, -, hrepeated⟩ := drafts_not_mixed_up hrun hsha
  have hdraft : ((answering 5).draft "How many users?" (.memory (.empty 10))).1 =
      ⟨[.schema, .draft "How many users?"], .ok ⟨"SELECT 1", .empty, 0, 0, false⟩⟩ := by
    rw [draft_of_missed (w := answering 5) (c := .empty 10) rfl rfl rfl]
    rfl
  refine ⟨⟨s, _, hrun, hsha, hi, rfl, hfinds 1 _ hi rfl⟩, ?_⟩
  refine hrepeated [] [] (answering 5) (answering 15) "How many users?"
    ⟨"SELECT 1", .empty, 0, 0, false⟩ (by decide) ?_ ?_ rfl rfl (by decide)
  · unfold serve
    rw [List.foldl_nil, hdraft]
    decide
  · unfold serve
    rw [List.foldl_nil, hdraft]

end QueryGuard.Proofs.SharedDrafts
