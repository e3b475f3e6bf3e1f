import Mathlib
import QueryGuard.Dialect
import QueryGuard.Proofs.PlanTree
import QueryGuard.Proofs.StatementWords

/-!
A plan tree and the ways in which it is answered.

The tree may stand by itself or under `Plan`, alone or as the first item of a list, and all of this
as a value or as its text. From each of these the same figures are read, those of the top node, and
the same risks, those of all nodes of the tree.
-/

namespace QueryGuard.Proofs.PlanEnvelope

open Text LowerImage StatementWords Estimate PlanTree

/-! ### The column -/

/-- In any letter case, with the underscore for the space if need be. -/
def NamesPlan (name : String) : Prop :=
  name.toList.map Char.toLower = "query plan".toList ∨
    name.toList.map Char.toLower = "query_plan".toList

/-- A space for an underscore, as column names are compared. -/
def spaced (c : Char) : Char := if c = '_' then ' ' else c

/-- Signs that `spaced` leaves as they are and gives for no other sign. -/
def Plain (w : List Char) : Prop := ' ' ∉ w ∧ '_' ∉ w

instance (w : List Char) : Decidable (Plain w) := inferInstanceAs (Decidable (_ ∧ _))

lemma spaced_eq_space_iff {c : Char} : spaced c = ' ' ↔ c = ' ' ∨ c = '_' := by
  unfold spaced
  split <;> simp_all

lemma map_spaced_eq_iff_of_plain {s w : List Char} (hw : Plain w) : s.map spaced = w ↔ s = w := by
  induction w generalizing s with
  | nil => simp
  | cons d w ih =>
    obtain ⟨hspace, hscore⟩ := hw
    rw [List.mem_cons, not_or] at hspace hscore
    have hsign {c : Char} : spaced c = d ↔ c = d := by
      unfold spaced
      split <;> grind
    simp only [List.map_eq_cons_iff, hsign, ih ⟨hspace.2, hscore.2⟩]
    grind

lemma map_spaced_eq_iff {s u v : List Char} (hu : Plain u) (hv : Plain v) :
    s.map spaced = u ++ ' ' :: v ↔ s = u ++ ' ' :: v ∨ s = u ++ '_' :: v := by
  simp only [List.map_eq_append_iff, List.map_eq_cons_iff, spaced_eq_space_iff,
    map_spaced_eq_iff_of_plain hu, map_spaced_eq_iff_of_plain hv]
  grind

lemma isPlanColumn_iff {name : String} : isPlanColumn name = true ↔ NamesPlan name := by
  have hplain : Ascii "query plan".toList := by decide +kernel
  have hscored : Ascii "query_plan".toList := by decide +kernel
  have hname : isPlanColumn name = true ↔
      (lower name.toList).map spaced = "query".toList ++ ' ' :: "plan".toList := beq_iff_eq
  rw [hname, map_spaced_eq_iff (by decide +kernel) (by decide +kernel), NamesPlan,
    map_toLower_eq_iff hplain (by decide +kernel), map_toLower_eq_iff hscored (by decide +kernel),
    ← lower_eq_iff hplain, ← lower_eq_iff hscored]
  rfl

/-! ### Envelopes -/

/-- The documents that hold a plan. -/
inductive Envelope (plan : List (String × Json)) : Json → Prop
  | bare : Envelope plan (.obj plan)
  | named : Envelope plan (.obj [("Plan", .obj plan)])
  | bareFirst (more : List Json) : Envelope plan (.arr (.obj plan :: more))
  | namedFirst (more : List Json) : Envelope plan (.arr (.obj [("Plan", .obj plan)] :: more))

/-- A cell with such a document, or with a text from which it is read. -/
inductive IsCell (plan : List (String × Json)) : Json → Prop
  | document {document : Json} (h : Envelope plan document) : IsCell plan document
  | text {document : Json} {text : String} (h : Envelope plan document)
      (hread : Json.parse? text = some document) : IsCell plan (.str text)

/-- The first row holds the cell under the first column that names a plan. -/
def Shows (r : ResultSet) (cell : Json) : Prop :=
  ∃ before name after row more, r.columns = before ++ name :: after ∧
    (∀ other ∈ before, ¬NamesPlan other) ∧ NamesPlan name ∧
    r.rows = row :: more ∧ row[before.length]? = some cell

variable {plan : List (String × Json)} {document cell : Json} {r : ResultSet}

lemma topNode?_of_envelope (hplan : plan.lookup "Plan" = none) (h : Envelope plan document) :
    topNode? document = some plan := by
  cases h with
  | bare => simp [topNode?, hplan]
  | named => simp [topNode?]
  | bareFirst more => simp [topNode?, hplan]
  | namedFirst more => simp [topNode?]

lemma findIdx?_of_first {before after : List String} {name : String}
    (hbefore : ∀ other ∈ before, ¬NamesPlan other) (hname : NamesPlan name) :
    (before ++ name :: after).findIdx? isPlanColumn = some before.length := by
  simp only [← isPlanColumn_iff] at hbefore hname
  rw [List.findIdx?_append, List.findIdx?_eq_none_iff.2 fun other h =>
    Bool.eq_false_iff.2 (hbefore other h), List.findIdx?_cons, hname]
  simp

/-- What is read from the cell of a plan column. -/
def fromCell? : Json → Option (List (String × Json))
  | .str text => (Json.parse? text).bind topNode?
  | document => topNode? document

lemma planOf?_of_shows (hr : Shows r cell) : planOf? r = fromCell? cell := by
  obtain ⟨before, name, after, row, more, hcolumns, hbefore, hname, hrows, hat⟩ := hr
  rw [planOf?, hrows, hcolumns, findIdx?_of_first hbefore hname]
  simp only [List.head?_cons, Option.bind_eq_bind, Option.bind_some, hat]
  cases cell <;> rfl

lemma fromCell?_of_isCell (hplan : plan.lookup "Plan" = none) (hcell : IsCell plan cell) :
    fromCell? cell = some plan := by
  cases hcell with
  | document h =>
    have htop := topNode?_of_envelope hplan h
    cases h <;> exact htop
  | text h hread =>
    rw [fromCell?, hread, Option.bind_some]
    exact topNode?_of_envelope hplan h

/-- **A plan in any envelope.** The figures are those of its top node. The risks are the warnings of
its nodes in preorder, where every node has its turn once. -/
theorem estimate_of_shows (hplan : plan.lookup "Plan" = none) (hcell : IsCell plan cell)
    (hr : Shows r cell) :
    Dialect.estimate .postgres r =
      { estimateMs := ((plan.lookup "Total Cost").bind Json.float?).map Decimal.round2
        planRows := (plan.lookup "Plan Rows").bind wholeRows?
        totalCost := (plan.lookup "Total Cost").bind Json.float?
        planRisks := (addresses (.obj plan)).flatMap (warningsAt (.obj plan)) } ∧
    (addresses (.obj plan)).Pairwise (· < ·) ∧
    ∀ a, a ∈ addresses (.obj plan) ↔ (nodeAt? (.obj plan) a).isSome = true := by
  refine ⟨?_, pairwise_addresses _, fun a => mem_addresses_iff⟩
  rw [Dialect.estimate, ofPlanTree, planOf?_of_shows hr,
    fromCell?_of_isCell hplan hcell, ← risksOf_eq_flatMap]

/-- A large nested loop over a scan of `orders` and a scan, further down, that names no table. -/
def loopPlan : List (String × Json) := [
  ("Node Type", .str "Nested Loop"), ("Plan Rows", .int 6000),
  ("Plans", .arr [
    .obj [("Node Type", .str "Seq Scan"), ("Relation Name", .str "orders")],
    .obj [("Node Type", .str "Hash"), ("Plans", .arr [.obj [("Node Type", .str "Seq Scan")]])]]),
  ("Total Cost", .int 12)]

/-- The text of the plan under `Plan`, in a list, under the second column of two. -/
def loopCell : Json := .str (String.ofList (Json.arr [.obj [("Plan", .obj loopPlan)]]).compact)

def loopAnswer : ResultSet := .ofRows ["note", "Query_Plan"] [[.null, loopCell]]

theorem estimate_loopAnswer :
    loopPlan.lookup "Plan" = none ∧ IsCell loopPlan loopCell ∧ Shows loopAnswer loopCell ∧
    (Dialect.estimate .postgres loopAnswer).planRisks =
      ["Large nested loop join detected.", "Sequential scan on orders.",
        "Sequential scan on table."] := by
  have hplan : loopPlan.lookup "Plan" = none := rfl
  have hcell : IsCell loopPlan loopCell := .text (.namedFirst []) (by cbv)
  have hshows : Shows loopAnswer loopCell :=
    ⟨["note"], "Query_Plan", [], [.null, loopCell], [], rfl,
      by simp only [List.mem_singleton, forall_eq, NamesPlan]; decide +kernel,
      .inr (by decide +kernel), rfl, rfl⟩
  refine ⟨hplan, hcell, hshows, ?_⟩
  rw [(estimate_of_shows hplan hcell hshows).1, ← risksOf_eq_flatMap]
  rfl

end QueryGuard.Proofs.PlanEnvelope
