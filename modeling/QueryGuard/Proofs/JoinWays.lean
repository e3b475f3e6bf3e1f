import Mathlib.Data.List.FinRange
import QueryGuard.Proofs.ShortestWay

/-!
The ways between the tables of a list.

There is one entry for each pair of places whose tables are connected, in the order of the pairs. A
graph without directions has each way backwards as well, so the way from the one table of a pair to
the other is as long as the way back, though it need not go through the same tables.
-/

namespace QueryGuard.Proofs.JoinWays

open SchemaGraph Neighbors ShortestWay

/-! ### There and back -/

section Symmetric

variable {g : SchemaGraph} {start goal : String}

lemma IsWalk.reverse (hsymm : ∀ t u, u ∈ g.neighbors t ↔ t ∈ g.neighbors u) {path : List String}
    (h : IsWalk g start goal path) : IsWalk g goal start path.reverse := by
  refine ⟨?_, ?_, List.isChain_reverse.2 (h.adjacent.imp fun t u => (hsymm t u).1)⟩
  · rw [List.head?_reverse, h.last]
  · rw [List.getLast?_reverse, h.head]

/-- A way back from a way there is no shorter than the shortest. -/
lemma IsBest.length_le (hsymm : ∀ t u, u ∈ g.neighbors t ↔ t ∈ g.neighbors u)
    {path back : List String} (h : IsBest g start goal path) (hback : IsWalk g goal start back) :
    path.length ≤ back.length := by
  have hle := h.shortest _ (IsWalk.reverse hsymm hback)
  rwa [List.length_reverse] at hle

lemma length_joinPath_comm (hg : Ascending g)
    (hsymm : ∀ t u, u ∈ g.neighbors t ↔ t ∈ g.neighbors u) (start goal : String) :
    (g.joinPath start goal).length = (g.joinPath goal start).length := by
  rcases joinPath_cases hg start goal with hthere | ⟨hnil, hnone⟩
  · have hback := (isBest_joinPath_iff hg).2 ⟨_, IsWalk.reverse hsymm hthere.walk⟩
    exact le_antisymm (IsBest.length_le hsymm hthere hback.walk)
      (IsBest.length_le hsymm hback hthere.walk)
  · have hback : g.joinPath goal start = [] := by
      rw [joinPath_eq_nil_iff hg]
      rintro ⟨path, hpath⟩
      exact hnone ⟨_, IsWalk.reverse hsymm hpath⟩
    rw [hnil, hback]

end Symmetric

/-! ### Pairs in a list -/

section Pairs

variable {α : Type} {a b : α} {l : List α}

lemma pair_sublist_cons_iff {c : α} :
    [a, b].Sublist (c :: l) ↔ [a, b].Sublist l ∨ a = c ∧ b ∈ l := by
  rw [List.cons_sublist_cons', List.singleton_sublist]

lemma pair_sublist_or (ha : a ∈ l) (hb : b ∈ l) (hne : a ≠ b) :
    [a, b].Sublist l ∨ [b, a].Sublist l := by
  induction l with
  | nil => cases ha
  | cons c l ih =>
    rw [pair_sublist_cons_iff, pair_sublist_cons_iff]
    rcases List.mem_cons.1 ha with rfl | hal
    · exact .inl (.inr ⟨rfl, (List.mem_cons.1 hb).resolve_left hne.symm⟩)
    · rcases List.mem_cons.1 hb with rfl | hbl
      · exact .inr (.inr ⟨rfl, hal⟩)
      · exact (ih hal hbl).imp .inl .inl

lemma not_pair_sublist_swap (hl : l.Nodup) (h : [a, b].Sublist l) : ¬[b, a].Sublist l := by
  induction l with
  | nil => cases h
  | cons c l ih =>
    obtain ⟨hc, hl⟩ := List.nodup_cons.1 hl
    rw [pair_sublist_cons_iff] at h ⊢
    rintro (hswap | ⟨rfl, ha⟩)
    · rcases h with h | ⟨rfl, -⟩
      · exact ih hl h hswap
      · exact hc (hswap.subset (by simp))
    · rcases h with h | ⟨rfl, -⟩
      · exact hc (h.subset (by simp))
      · exact hc ha

lemma pair_sublist_of_lt {i j : Fin l.length} (h : i < j) : [l[i], l[j]].Sublist l :=
  List.pairwise_iff_getElem.1 (List.pairwise_iff_forall_sublist.2 fun h => h) i j i.2 j.2 h

end Pairs

/-! ### One entry for each pair -/

/-- The order in which the pairs of places of a list are gone through. -/
def Before {n : Nat} (p q : Fin n × Fin n) : Prop := p.1 < q.1 ∨ p.1 = q.1 ∧ p.2 < q.2

/-- The entry for a pair of places. -/
def entry (g : SchemaGraph) (tables : List String) (p : Fin tables.length × Fin tables.length) :
    JoinPath :=
  ⟨tables[p.1], tables[p.2], g.joinPath tables[p.1] tables[p.2]⟩

/-- `pairs` are the pairs of places, in order, between which there is a way. -/
structure ArePairs (g : SchemaGraph) (tables : List String)
    (pairs : List (Fin tables.length × Fin tables.length)) : Prop where
  ordered : pairs.Pairwise Before
  mem_iff : ∀ i j, (i, j) ∈ pairs ↔ i < j ∧ g.joinPath tables[i] tables[j] ≠ []

variable (g : SchemaGraph)

/-- The places behind the first, between whose tables and its there is a way. -/
def placesFrom (t : String) (rest : List String) : List (Fin rest.length) :=
  (List.finRange rest.length).filter fun j => g.joinPath t rest[j] ≠ []

lemma filterMap_joinPath (t : String) (rest : List String) :
    (rest.filterMap fun u =>
      let path := g.joinPath t u
      if path.isEmpty then none else some ⟨t, u, path⟩) =
    (placesFrom g t rest).map fun j => (⟨t, rest[j], g.joinPath t rest[j]⟩ : JoinPath) := by
  rw [placesFrom, ← List.filterMap_eq_map, List.filterMap_filter]
  conv_lhs => rw [← List.map_get_finRange rest]
  rw [List.filterMap_map]
  refine List.filterMap_congr fun j _ => ?_
  by_cases h : g.joinPath t rest[j] = [] <;> simp_all

/-- The pairs of the rest, one place further on, behind those of the first table. -/
lemma ArePairs.cons {rest : List String} {pairs : List (Fin rest.length × Fin rest.length)}
    (h : ArePairs g rest pairs) (t : String) :
    ArePairs g (t :: rest)
      ((placesFrom g t rest).map (fun j => ((0 : Fin (rest.length + 1)), j.succ)) ++
        pairs.map fun p => (p.1.succ, p.2.succ)) := by
  constructor
  · rw [List.pairwise_append]
    refine ⟨?_, ?_, fun p hp q hq => ?_⟩
    · refine List.Pairwise.map _ (fun i j hij => ?_) ((List.pairwise_lt_finRange _).filter _)
      exact .inr ⟨rfl, Fin.succ_lt_succ_iff.2 hij⟩
    · refine List.Pairwise.map _ (fun p q hpq => ?_) h.ordered
      exact hpq.imp Fin.succ_lt_succ_iff.2 fun hsame =>
        ⟨congrArg Fin.succ hsame.1, Fin.succ_lt_succ_iff.2 hsame.2⟩
    · obtain ⟨j, -, rfl⟩ := List.mem_map.1 hp
      obtain ⟨q, -, rfl⟩ := List.mem_map.1 hq
      exact .inl (Fin.succ_pos _)
  · intro i j
    rw [List.mem_append]
    cases i using Fin.cases with
    | zero =>
      cases j using Fin.cases with
      | zero => simp
      | succ j => simp [placesFrom]
    | succ i =>
      cases j using Fin.cases with
      | zero => simp
      | succ j =>
        have hne : (0 : Fin (rest.length + 1)) ≠ i.succ := (Fin.succ_ne_zero i).symm
        simp [h.mem_iff, hne]

/-- **The entries** of a list of tables. -/
theorem exists_pairs (tables : List String) :
    ∃ pairs, ArePairs g tables pairs ∧ g.joinPaths tables = pairs.map (entry g tables) := by
  induction tables with
  | nil => exact ⟨[], ⟨.nil, fun i => i.elim0⟩, rfl⟩
  | cons t rest ih =>
    obtain ⟨pairs, hpairs, heq⟩ := ih
    refine ⟨_, hpairs.cons g t, ?_⟩
    rw [joinPaths, filterMap_joinPath, heq, List.map_append, List.map_map, List.map_map]
    rfl

/-- The entries are those of the pairs, in the order of the tables, with a way between them. -/
lemma mem_joinPaths_iff {g : SchemaGraph} {tables : List String} {e : JoinPath} :
    e ∈ g.joinPaths tables ↔
      [e.start, e.goal].Sublist tables ∧ e.path = g.joinPath e.start e.goal ∧ e.path ≠ [] := by
  induction tables with
  | nil => simp [joinPaths]
  | cons t rest ih =>
    have hhead : (∃ u ∈ rest, (if (g.joinPath t u).isEmpty then none
        else some (⟨t, u, g.joinPath t u⟩ : JoinPath)) = some e) ↔
        (e.start = t ∧ e.goal ∈ rest) ∧ e.path = g.joinPath e.start e.goal ∧ e.path ≠ [] := by
      constructor
      · rintro ⟨u, hu, heq⟩
        split at heq
        · cases heq
        · rename_i hne
          cases heq
          exact ⟨⟨rfl, hu⟩, rfl, by simpa using hne⟩
      · obtain ⟨start, goal, path⟩ := e
        rintro ⟨⟨rfl, hu⟩, hpath, hne⟩
        dsimp only at hu hpath hne ⊢
        subst hpath
        exact ⟨goal, hu, if_neg (by simpa using hne)⟩
    rw [joinPaths, List.mem_append, List.mem_filterMap, hhead, ih, pair_sublist_cons_iff, or_comm,
      or_and_right]

def HasEntry (paths : List JoinPath) (start goal : String) : Prop :=
  ∃ path, ⟨start, goal, path⟩ ∈ paths

lemma hasEntry_joinPaths_iff {g : SchemaGraph} (hg : Ascending g) {tables : List String}
    {start goal : String} : HasEntry (g.joinPaths tables) start goal ↔
      [start, goal].Sublist tables ∧ ∃ way, IsWalk g start goal way := by
  have hway : g.joinPath start goal ≠ [] ↔ ∃ way, IsWalk g start goal way := by
    rw [ne_eq, joinPath_eq_nil_iff hg, not_not]
  rw [← hway]
  constructor
  · rintro ⟨path, hm⟩
    obtain ⟨hsub, hpath, hne⟩ := mem_joinPaths_iff.1 hm
    dsimp only at hsub hpath hne
    exact ⟨hsub, hpath ▸ hne⟩
  · rintro ⟨hsub, hne⟩
    exact ⟨_, mem_joinPaths_iff.2 ⟨hsub, rfl, hne⟩⟩

/-- **The graph of some edges.** The neighbours of a table stand in increasing order and are the
tables that an edge joins to it, in either direction; so edges that join the same tables give the
same graph. The entries for a list of tables are those of the pairs with a way between them, in
order, and a way is as long as the one back. -/
theorem graph_of_edges (edges : List (String × String)) :
    (∀ t, ((ofEdges edges).neighbors t).Pairwise (· < ·)) ∧
    (∀ t u, u ∈ (ofEdges edges).neighbors t ↔ Joined edges t u) ∧
    (∀ t u, u ∈ (ofEdges edges).neighbors t ↔ t ∈ (ofEdges edges).neighbors u) ∧
    (∀ edges', ofEdges edges' = ofEdges edges ↔ ∀ t u, Joined edges' t u ↔ Joined edges t u) ∧
    (∀ tables, ∃ pairs, ArePairs (ofEdges edges) tables pairs ∧
      (ofEdges edges).joinPaths tables = pairs.map (entry (ofEdges edges) tables)) ∧
    ∀ t u, ((ofEdges edges).joinPath t u).length = ((ofEdges edges).joinPath u t).length := by
  have hsymm : ∀ t u, u ∈ (ofEdges edges).neighbors t ↔ t ∈ (ofEdges edges).neighbors u :=
    fun t u => mem_neighbors_comm edges
  exact ⟨pairwise_neighbors edges, fun t u => mem_neighbors_iff edges, hsymm,
    fun edges' => ofEdges_eq_iff edges' edges, exists_pairs _,
    length_joinPath_comm (ascending_ofEdges edges) hsymm⟩

end QueryGuard.Proofs.JoinWays
