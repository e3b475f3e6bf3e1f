import Mathlib.Data.List.Induction
import QueryGuard.Proofs.NameOrder
import QueryGuard.Schema.Graph

/-!
The neighbours of a table.

Edges are put in one after the other, each at both its ends. What is known of the graph at any time
is which tables the edges so far join; neither their order nor their direction is kept, and an edge
that comes again changes nothing. A table is kept only if it has a neighbour, so graphs with the
same neighbours are equal.
-/

namespace QueryGuard.Proofs.Neighbors

open SchemaGraph NameOrder

/-! ### One more neighbour -/

section AddName

variable (name : String) {l : List String}

@[simp] lemma mem_addName {x : String} : x ∈ addName name l ↔ x = name ∨ x ∈ l := by
  induction l with
  | nil => simp [addName]
  | cons n l ih =>
    simp only [addName]
    split
    · simp
    · split
      · simp_all
      · simp [ih, or_left_comm]

lemma pairwise_addName (h : l.Pairwise (· < ·)) : (addName name l).Pairwise (· < ·) := by
  induction l with
  | nil => simp [addName]
  | cons n l ih =>
    obtain ⟨hn, hl⟩ := List.pairwise_cons.1 h
    simp only [addName]
    split
    · rename_i hlt
      refine List.pairwise_cons.2 ⟨fun x hx => ?_, h⟩
      rcases List.mem_cons.1 hx with rfl | hx
      · exact hlt
      · exact lt_trans hlt (hn x hx)
    · split
      · exact h
      · rename_i hge hne
        refine List.pairwise_cons.2 ⟨fun x hx => ?_, ih hl⟩
        rcases (mem_addName name).1 hx with rfl | hx
        · exact lt_of_le_of_ne (not_lt.1 hge) (Ne.symm hne)
        · exact hn x hx

lemma addName_ne_nil : addName name l ≠ [] := by
  have hm : name ∈ addName name l := (mem_addName name).2 (.inl rfl)
  exact List.ne_nil_of_mem hm

end AddName

/-! ### The graph of some edges -/

/-- An edge with names at both ends joins the two tables. -/
def Joined (edges : List (String × String)) (t u : String) : Prop :=
  t ≠ "" ∧ u ≠ "" ∧ ((t, u) ∈ edges ∨ (u, t) ∈ edges)

instance (edges : List (String × String)) (t u : String) : Decidable (Joined edges t u) :=
  inferInstanceAs (Decidable (_ ∧ _))

lemma Joined.symm {edges : List (String × String)} {t u : String} (h : Joined edges t u) :
    Joined edges u t :=
  ⟨h.2.1, h.1, h.2.2.symm⟩

/-- What is kept of the edges. -/
structure Keeps (m : NameMap (List String)) (edges : List (String × String)) : Prop where
  ascending : ∀ t, ((m.get? t).getD []).Pairwise (· < ·)
  mem_iff : ∀ t u, u ∈ (m.get? t).getD [] ↔ Joined edges t u
  ne_nil : ∀ t, m.get? t ≠ some []

lemma keeps_empty : Keeps .empty [] :=
  ⟨fun t => by simp, fun t u => by simp [Joined], fun t => by simp⟩

/-- A neighbour is added at one end only. -/
lemma getD_addNeighbor (m : NameMap (List String)) (a b t : String) :
    ((addNeighbor m a b).get? t).getD [] =
      if t = a then addName b ((m.get? a).getD []) else (m.get? t).getD [] := by
  unfold addNeighbor
  split
  · rename_i h
    rw [h, get?_alter_self, Option.getD_some]
  · rename_i h
    rw [get?_alter_of_ne _ _ _ h]

lemma get?_addNeighbor_ne_nil {m : NameMap (List String)} {t : String} (h : m.get? t ≠ some [])
    (a b : String) : (addNeighbor m a b).get? t ≠ some [] := by
  unfold addNeighbor
  by_cases ht : t = a
  · rw [ht, get?_alter_self]
    simpa using addName_ne_nil b
  · rwa [get?_alter_of_ne _ _ _ ht]

lemma pairwise_addNeighbor {m : NameMap (List String)}
    (h : ∀ t, ((m.get? t).getD []).Pairwise (· < ·)) (a b t : String) :
    (((addNeighbor m a b).get? t).getD []).Pairwise (· < ·) := by
  rw [getD_addNeighbor]
  split
  · exact pairwise_addName b (h a)
  · exact h t

lemma mem_addNeighbor_iff (m : NameMap (List String)) (a b t u : String) :
    u ∈ ((addNeighbor m a b).get? t).getD [] ↔ u ∈ (m.get? t).getD [] ∨ t = a ∧ u = b := by
  rw [getD_addNeighbor]
  split
  · rename_i h
    simp [h, or_comm]
  · rename_i h
    simp [h]

lemma joined_concat_iff (edges : List (String × String)) (a b t u : String) :
    Joined (edges ++ [(a, b)]) t u ↔
      Joined edges t u ∨ a ≠ "" ∧ b ≠ "" ∧ (t = a ∧ u = b ∨ t = b ∧ u = a) := by
  simp only [Joined, List.mem_append, List.mem_singleton, Prod.mk.injEq]
  constructor
  · rintro ⟨ht, hu, (h | ⟨rfl, rfl⟩) | h | ⟨rfl, rfl⟩⟩
    · exact .inl ⟨ht, hu, .inl h⟩
    · exact .inr ⟨ht, hu, .inl ⟨rfl, rfl⟩⟩
    · exact .inl ⟨ht, hu, .inr h⟩
    · exact .inr ⟨hu, ht, .inr ⟨rfl, rfl⟩⟩
  · rintro (⟨ht, hu, h⟩ | ⟨ha, hb, ⟨rfl, rfl⟩ | ⟨rfl, rfl⟩⟩)
    · exact ⟨ht, hu, h.imp .inl .inl⟩
    · exact ⟨ha, hb, .inl (.inr ⟨rfl, rfl⟩)⟩
    · exact ⟨hb, ha, .inr (.inr ⟨rfl, rfl⟩)⟩

/-- One more edge. -/
lemma Keeps.concat {m : NameMap (List String)} {edges : List (String × String)}
    (h : Keeps m edges) (a b : String) :
    Keeps (if a = "" ∨ b = "" then m else addNeighbor (addNeighbor m a b) b a)
      (edges ++ [(a, b)]) := by
  split
  · rename_i hempty
    have hnone : ¬(a ≠ "" ∧ b ≠ "") := by
      rintro ⟨ha, hb⟩
      exact hempty.elim ha hb
    refine ⟨h.ascending, fun t u => ?_, h.ne_nil⟩
    rw [h.mem_iff, joined_concat_iff, ← and_assoc]
    simp [hnone]
  · rename_i hfull
    rw [not_or] at hfull
    refine ⟨pairwise_addNeighbor (pairwise_addNeighbor h.ascending a b) b a, fun t u => ?_,
      fun t => get?_addNeighbor_ne_nil (get?_addNeighbor_ne_nil (h.ne_nil t) a b) b a⟩
    rw [mem_addNeighbor_iff, mem_addNeighbor_iff, h.mem_iff, joined_concat_iff, or_assoc]
    simp [hfull]

lemma keeps_ofEdges (edges : List (String × String)) : Keeps (ofEdges edges).adjacency edges := by
  unfold ofEdges
  induction edges using List.reverseRecOn with
  | nil => exact keeps_empty
  | append_singleton edges e ih =>
    rw [List.foldl_append]
    exact ih.concat e.1 e.2

section Graph

variable (edges : List (String × String))

lemma pairwise_neighbors (t : String) : ((ofEdges edges).neighbors t).Pairwise (· < ·) :=
  (keeps_ofEdges edges).ascending t

@[simp] lemma mem_neighbors_iff {t u : String} :
    u ∈ (ofEdges edges).neighbors t ↔ Joined edges t u :=
  (keeps_ofEdges edges).mem_iff t u

lemma mem_neighbors_comm {t u : String} :
    u ∈ (ofEdges edges).neighbors t ↔ t ∈ (ofEdges edges).neighbors u := by
  rw [mem_neighbors_iff, mem_neighbors_iff]
  exact ⟨Joined.symm, Joined.symm⟩

end Graph

lemma Keeps.get?_eq {m : NameMap (List String)} {edges : List (String × String)}
    (h : Keeps m edges) (t : String) :
    m.get? t = if (m.get? t).getD [] = [] then none else some ((m.get? t).getD []) := by
  cases ht : m.get? t with
  | none => simp
  | some ns =>
    have hne : ns ≠ [] := by
      rintro rfl
      exact h.ne_nil t ht
    simp [hne]

/-- **The graph** depends only on which tables are joined. -/
theorem ofEdges_eq_iff (edges edges' : List (String × String)) :
    ofEdges edges = ofEdges edges' ↔ ∀ t u, Joined edges t u ↔ Joined edges' t u := by
  constructor
  · intro h t u
    rw [← mem_neighbors_iff, ← mem_neighbors_iff, h]
  · intro h
    have hsame : ∀ t, (ofEdges edges).neighbors t = (ofEdges edges').neighbors t := by
      intro t
      refine List.Pairwise.eq_of_mem_iff (pairwise_neighbors edges t)
        (pairwise_neighbors edges' t) fun u => ?_
      rw [mem_neighbors_iff, mem_neighbors_iff, h]
    have hget : ∀ t, (ofEdges edges).adjacency.get? t = (ofEdges edges').adjacency.get? t := by
      intro t
      have ht : ((ofEdges edges).adjacency.get? t).getD [] =
          ((ofEdges edges').adjacency.get? t).getD [] := hsame t
      rw [(keeps_ofEdges edges).get?_eq, (keeps_ofEdges edges').get?_eq, ht]
    have hadj := ext_get? hget
    cases hg : ofEdges edges
    cases hg' : ofEdges edges'
    rw [hg, hg'] at hadj
    rw [SchemaGraph.mk.injEq]
    exact hadj

end QueryGuard.Proofs.Neighbors
