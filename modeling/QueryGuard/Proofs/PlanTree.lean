import Mathlib.Data.List.Basic
import QueryGuard.Estimate

/-!
The nodes of a plan tree and what they are warned of.

A node is found by its address, the places of its ancestors and its own among the nodes they list.
Compared place by place, addresses come in the order in which a plan is read: a node before all that
is below it, and what is below it before its later neighbours. The risks of a plan are the warnings
of its nodes in this order.
-/

namespace QueryGuard.Proofs.PlanTree

open Estimate

/-! ### Nodes -/

/-- The nodes that a node lists under `Plans`. -/
def children (node : Json) : List Json := ((node.field? "Plans").bind Json.arr?).getD []

lemma field?_cons_self (name : String) (value : Json) (rest : List (String × Json)) :
    (Json.obj ((name, value) :: rest)).field? name = some value := by
  simp [Json.field?]

lemma field?_cons_of_ne {name other : String} (h : other ≠ name) (value : Json)
    (rest : List (String × Json)) :
    (Json.obj ((other, value) :: rest)).field? name = (Json.obj rest).field? name := by
  have hne : (name == other) = false := by simpa using h.symm
  simp [Json.field?, List.lookup_cons, hne]

lemma sizeOf_lt_of_mem_children {node child : Json} (h : child ∈ children node) :
    sizeOf child < sizeOf node := by
  cases node with
  | obj fields =>
    induction fields with
    | nil => simp [children, Json.field?] at h
    | cons field rest ih =>
      obtain ⟨name, value⟩ := field
      by_cases hname : name = "Plans"
      · subst hname
        rw [children, field?_cons_self] at h
        cases value with
        | arr nodes =>
          have hlt := List.sizeOf_lt_of_mem (show child ∈ nodes from h)
          simp only [Json.obj.sizeOf_spec, List.cons.sizeOf_spec, Prod.mk.sizeOf_spec,
            Json.arr.sizeOf_spec]
          omega
        | _ => simp [Json.arr?] at h
      · rw [children, field?_cons_of_ne hname] at h
        have hlt := ih h
        simp only [Json.obj.sizeOf_spec, List.cons.sizeOf_spec] at hlt ⊢
        omega
  | _ => simp [children, Json.field?] at h

/-- What holds of a node when it holds of those it lists, holds of all nodes. -/
lemma node_induction {motive : Json → Prop}
    (step : ∀ node, (∀ child ∈ children node, motive child) → motive node) (node : Json) :
    motive node := by
  induction hn : sizeOf node using Nat.strongRecOn generalizing node with
  | ind n ih =>
    subst hn
    exact step node fun child hchild => ih _ (sizeOf_lt_of_mem_children hchild) child rfl

/-! ### Addresses -/

def nodeAt? (node : Json) : List Nat → Option Json
  | [] => some node
  | i :: address => (children node)[i]?.bind (nodeAt? · address)

/-- The addresses of the nodes of a plan: that of its top node, then those below its first child,
and so on. -/
def addresses (node : Json) : List (List Nat) :=
  [] :: (children node).attach.zipIdx.flatMap fun (child, i) => (addresses child.1).map (i :: ·)
termination_by sizeOf node
decreasing_by exact sizeOf_lt_of_mem_children child.2

lemma addresses_eq (node : Json) : addresses node =
    [] :: (children node).zipIdx.flatMap fun (child, i) => (addresses child).map (i :: ·) := by
  have hplaces : (children node).zipIdx =
      (children node).attach.zipIdx.map fun (child, i) => (child.1, i) := by
    conv_lhs => rw [← List.attach_map_subtype_val (children node), List.zipIdx_map]
    rfl
  rw [addresses, hplaces, List.flatMap_map]

/-- Every node has its address in the list, and nothing else is there. -/
lemma mem_addresses_iff {node : Json} {a : List Nat} :
    a ∈ addresses node ↔ (nodeAt? node a).isSome = true := by
  induction a generalizing node with
  | nil =>
    rw [addresses_eq]
    exact iff_of_true List.mem_cons_self rfl
  | cons i a ih =>
    rw [addresses_eq, List.mem_cons, List.mem_flatMap, nodeAt?]
    constructor
    · rintro (hnil | ⟨⟨child, j⟩, hchild, ha⟩)
      · cases hnil
      · obtain ⟨b, hb, heq⟩ := List.mem_map.1 ha
        obtain ⟨rfl, rfl⟩ := List.cons.inj heq
        rw [List.mem_zipIdx_iff_getElem?.1 hchild, Option.bind_some]
        exact ih.1 hb
    · intro h
      obtain ⟨child, hchild⟩ := Option.isSome_iff_exists.1 (Option.isSome_of_isSome_bind h)
      rw [hchild, Option.bind_some] at h
      exact .inr ⟨(child, i), List.mem_zipIdx_iff_getElem?.2 hchild,
        List.mem_map_of_mem (ih.2 h)⟩

/-- **Preorder.** Each address comes once, in front of those of the nodes below it and of the later
neighbours. -/
lemma pairwise_addresses (node : Json) : (addresses node).Pairwise (· < ·) := by
  induction node using node_induction with
  | step node ih =>
    have hplaces : (children node).zipIdx.Pairwise fun x y => x.2 < y.2 := by
      rw [← List.pairwise_map (f := Prod.snd), List.zipIdx_map_snd]
      exact List.pairwise_lt_range'
    rw [addresses_eq, List.pairwise_cons, List.pairwise_flatMap]
    refine ⟨fun a ha => ?_, fun x hx => ?_, hplaces.imp fun hlt => ?_⟩
    · obtain ⟨x, -, ha⟩ := List.mem_flatMap.1 ha
      obtain ⟨b, -, rfl⟩ := List.mem_map.1 ha
      exact List.nil_lt_cons _ _
    · rw [List.pairwise_map]
      exact (ih x.1 (List.fst_mem_of_mem_zipIdx hx)).imp fun hlt =>
        List.cons_lt_cons_iff.2 (.inr ⟨rfl, hlt⟩)
    · intro a ha b hb
      obtain ⟨a, -, rfl⟩ := List.mem_map.1 ha
      obtain ⟨b, -, rfl⟩ := List.mem_map.1 hb
      exact List.cons_lt_cons_iff.2 (.inl hlt)

/-! ### Warnings -/

/-- The relation that a node names, if it names one. -/
def relation (node : Json) : String :=
  match (node.field? "Relation Name").bind Json.str? with
  | some name => if name = "" then "table" else name
  | none => "table"

def nodeType? (node : Json) : Option String := (node.field? "Node Type").bind Json.str?

/-- A nested loop over more than 5000 rows. -/
def IsLargeLoop (node : Json) : Prop :=
  nodeType? node = some "Nested Loop" ∧
    ∃ rows ∈ (node.field? "Plan Rows").bind Json.float?, 5000.0 < rows

instance (node : Json) : Decidable (IsLargeLoop node) := inferInstanceAs (Decidable (_ ∧ _))

/-- What a node by itself is warned of. -/
def warnings (node : Json) : List String :=
  if nodeType? node = some "Seq Scan" then ["Sequential scan on " ++ relation node ++ "."]
  else if IsLargeLoop node then ["Large nested loop join detected."]
  else []

/-- The warnings of the node at an address. -/
def warningsAt (node : Json) (a : List Nat) : List String := ((nodeAt? node a).map warnings).getD []

lemma nodeRisks_eq (fields : List (String × Json)) : nodeRisks fields = warnings (.obj fields) := by
  have htype : nodeType? (.obj fields) = (fields.lookup "Node Type").bind Json.str? := rfl
  have hloop : IsLargeLoop (.obj fields) ↔ nodeType? (.obj fields) = some "Nested Loop" ∧
      ∃ rows ∈ (fields.lookup "Plan Rows").bind Json.float?, 5000.0 < rows := Iff.rfl
  unfold nodeRisks
  rw [warnings]
  split
  · rename_i hscan
    rw [if_pos (by rw [htype, hscan]; rfl), relation, Json.field?]
    cases fields.lookup "Relation Name" with
    | none => rfl
    | some name => cases name <;> rfl
  · rename_i hnested
    have hnot : nodeType? (.obj fields) ≠ some "Seq Scan" := by
      rw [htype, hnested]
      decide
    rw [if_neg hnot]
    cases hrows : (fields.lookup "Plan Rows").bind Json.float? with
    | none => rw [if_neg fun h => by simp [hloop, hrows] at h]
    | some rows =>
      have hlarge : IsLargeLoop (.obj fields) ↔ nestedLoopRows < rows := by
        rw [hloop, htype, hnested, hrows]
        simp [Json.str?, nestedLoopRows]
      simp only [hlarge]
  · rename_i hscan hnested
    have hother : ∀ type, nodeType? (.obj fields) = some type →
        fields.lookup "Node Type" = some (.str type) := by
      intro type h
      rw [htype] at h
      cases hvalue : fields.lookup "Node Type" with
      | none => simp [hvalue] at h
      | some value => cases value <;> simp_all [Json.str?]
    rw [if_neg fun h => hscan (hother _ h),
      if_neg fun h : IsLargeLoop _ => hnested (hother _ h.1)]

lemma risksOfAll_eq (nodes : List Json) : risksOfAll nodes = nodes.flatMap risksOf := by
  induction nodes with
  | nil => rfl
  | cons node nodes ih => rw [risksOfAll, ih, List.flatMap_cons]

lemma risksBelow_cons_self (value : Json) (rest : List (String × Json)) :
    risksBelow (("Plans", value) :: rest) = (value.arr?.getD []).flatMap risksOf := by
  cases value with
  | arr nodes => exact risksOfAll_eq nodes
  | _ => rfl

lemma risksBelow_cons_of_ne {name : String} (h : name ≠ "Plans") (value : Json)
    (rest : List (String × Json)) : risksBelow ((name, value) :: rest) = risksBelow rest := by
  cases value <;> exact if_neg h

lemma risksBelow_eq (fields : List (String × Json)) :
    risksBelow fields = (children (.obj fields)).flatMap risksOf := by
  induction fields with
  | nil => rfl
  | cons field rest ih =>
    obtain ⟨name, value⟩ := field
    by_cases hname : name = "Plans"
    · subst hname
      rw [children, field?_cons_self]
      exact risksBelow_cons_self value rest
    · rw [children, field?_cons_of_ne hname, ← children, ← ih, risksBelow_cons_of_ne hname]

lemma risksOf_eq (node : Json) :
    risksOf node = warnings node ++ (children node).flatMap risksOf := by
  cases node with
  | obj fields => rw [risksOf, nodeRisks_eq, risksBelow_eq]
  | _ => simp [risksOf, warnings, nodeType?, IsLargeLoop, children, Json.field?]

/-- **The risks of a plan** are the warnings of its nodes, each node in its turn. -/
theorem risksOf_eq_flatMap (node : Json) :
    risksOf node = (addresses node).flatMap (warningsAt node) := by
  induction node using node_induction with
  | step node ih =>
    have hchild : ∀ x ∈ (children node).zipIdx,
        ((addresses x.1).map (x.2 :: ·)).flatMap (warningsAt node) = risksOf x.1 := by
      rintro ⟨child, i⟩ hx
      have hat : ∀ a, warningsAt node (i :: a) = warningsAt child a := by
        intro a
        rw [warningsAt, nodeAt?, List.mem_zipIdx_iff_getElem?.1 hx]
        rfl
      rw [ih child (List.fst_mem_of_mem_zipIdx hx), List.flatMap_map]
      exact List.flatMap_congr fun a _ => hat a
    have hbelow : (children node).flatMap risksOf =
        (children node).zipIdx.flatMap fun x => risksOf x.1 := by
      conv_lhs => rw [← List.zipIdx_map_fst 0 (children node), List.flatMap_map]
    rw [risksOf_eq, addresses_eq, List.flatMap_cons, List.flatMap_assoc, hbelow,
      List.flatMap_congr hchild]
    rfl

end QueryGuard.Proofs.PlanTree
