import Mathlib.Data.List.Chain
import QueryGuard.Proofs.Neighbors

/-!
The way that the search finds.

The search keeps, level by level, one trail to each table that is that many steps away. The trails
of a level stand in the order of their names, and each comes first among the trails as long that
lead to the same table: a trail is only extended to a table that was not met before, and of the
trails that could be extended to it the first one is. So when the goal is met, it is met by the
first of the shortest ways; and since the levels run through all that can be reached, a goal that is
never met has no way to it.
-/

namespace QueryGuard.Proofs.ShortestWay

open SchemaGraph NameOrder Neighbors

variable {g : SchemaGraph} {start goal : String}

/-! ### Ways -/

/-- From `start` to `goal`, each table being a neighbour of the one before. -/
structure IsWalk (g : SchemaGraph) (start goal : String) (path : List String) : Prop where
  head : path.head? = some start
  last : path.getLast? = some goal
  adjacent : path.IsChain fun t u => u ∈ g.neighbors t

/-- No table comes twice, no way is shorter, and of the ways as long none comes before it, name by
name. -/
structure IsBest (g : SchemaGraph) (start goal : String) (path : List String) : Prop where
  walk : IsWalk g start goal path
  nodup : path.Nodup
  shortest : ∀ way, IsWalk g start goal way → path.length ≤ way.length
  least : ∀ way, IsWalk g start goal way → way.length = path.length →
    path.map bytes ≤ way.map bytes

/-- A way with its end first, as the search keeps it. -/
structure IsTrail (g : SchemaGraph) (start : String) (t : List String) : Prop where
  last : t.getLast? = some start
  adjacent : t.IsChain fun v u => v ∈ g.neighbors u

lemma isWalk_iff_isTrail {path : List String} :
    IsWalk g start goal path ↔
      IsTrail g start path.reverse ∧ path.reverse.head? = some goal := by
  constructor
  · rintro ⟨hhead, hlast, hadj⟩
    refine ⟨⟨?_, List.isChain_reverse.2 hadj⟩, ?_⟩
    · rwa [List.getLast?_reverse]
    · rwa [List.head?_reverse]
  · rintro ⟨⟨hhead, hadj⟩, hlast⟩
    rw [List.getLast?_reverse] at hhead
    rw [List.head?_reverse] at hlast
    exact ⟨hhead, hlast, List.isChain_reverse.1 hadj⟩

lemma IsTrail.ne_nil {t : List String} (h : IsTrail g start t) : t ≠ [] := by
  rintro rfl
  cases h.last

lemma isTrail_singleton : IsTrail g start [start] := ⟨rfl, .singleton _⟩

lemma isTrail_cons_iff {v u : String} {t : List String} :
    IsTrail g start (v :: u :: t) ↔ v ∈ g.neighbors u ∧ IsTrail g start (u :: t) := by
  constructor
  · rintro ⟨hlast, hadj⟩
    rw [List.getLast?_cons_cons] at hlast
    rw [List.isChain_cons_cons] at hadj
    exact ⟨hadj.1, hlast, hadj.2⟩
  · rintro ⟨hv, hlast, hadj⟩
    refine ⟨?_, List.isChain_cons_cons.2 ⟨hv, hadj⟩⟩
    rwa [List.getLast?_cons_cons]

/-- Up to any of its tables a trail is a trail. -/
lemma IsTrail.suffix {t t' : List String} (h : IsTrail g start t) (ht : t' <:+ t) (hne : t' ≠ []) :
    IsTrail g start t' := by
  obtain ⟨s, rfl⟩ := ht
  refine ⟨?_, h.adjacent.right_of_append⟩
  rw [← h.last, List.getLast?_append_of_ne_nil _ hne]

/-- Loops can be cut out of a trail. -/
lemma IsTrail.exists_nodup {t : List String} (h : IsTrail g start t) :
    ∃ t', IsTrail g start t' ∧ t'.head? = t.head? ∧ t'.Nodup ∧ t'.Sublist t := by
  induction t with
  | nil => exact absurd rfl h.ne_nil
  | cons v t ih =>
    cases t with
    | nil => exact ⟨[v], h, rfl, List.nodup_singleton v, .refl _⟩
    | cons u t =>
      obtain ⟨hv, hu⟩ := isTrail_cons_iff.1 h
      obtain ⟨t', ht', hhead, hnodup, hsub⟩ := ih hu
      by_cases hm : v ∈ t'
      · -- the loop from `v` back to `v` is left out
        obtain ⟨s, r, rfl⟩ := List.append_of_mem hm
        have hsuffix : v :: r <:+ s ++ v :: r := List.suffix_append s (v :: r)
        exact ⟨v :: r, ht'.suffix hsuffix (by simp), rfl, hnodup.sublist hsuffix.sublist,
          (hsuffix.sublist.trans hsub).cons v⟩
      · obtain ⟨w, r, rfl⟩ := List.exists_cons_of_ne_nil ht'.ne_nil
        obtain rfl : w = u := by simpa using hhead
        exact ⟨v :: w :: r, isTrail_cons_iff.2 ⟨hv, ht'⟩, rfl, List.nodup_cons.2 ⟨hm, hnodup⟩,
          hsub.cons_cons v⟩

/-! ### The order of trails -/

/-- In the order of names, from the start on. -/
def Ahead (t t' : List String) : Prop := t.reverse < t'.reverse

lemma concat_lt_concat_iff {p q : List String} (h : p.length = q.length) {a b : String} :
    p ++ [a] < q ++ [b] ↔ p < q ∨ p = q ∧ a < b := by
  induction p generalizing q with
  | nil =>
    obtain rfl : q = [] := List.length_eq_zero_iff.1 h.symm
    simp [List.cons_lt_cons_iff]
  | cons c p ih =>
    cases q with
    | nil => simp at h
    | cons d q =>
      have hlen : p.length = q.length := by simpa using h
      simp only [List.cons_append, List.cons_lt_cons_iff, ih hlen, List.cons.injEq]
      grind

/-- Of trails as long the steps before count more than the last one. -/
lemma ahead_cons_iff {t t' : List String} (h : t.length = t'.length) {v v' : String} :
    Ahead (v :: t) (v' :: t') ↔ Ahead t t' ∨ t = t' ∧ v < v' := by
  unfold Ahead
  rw [List.reverse_cons, List.reverse_cons, concat_lt_concat_iff (by simpa using h),
    List.reverse_inj]

lemma not_ahead_self (t : List String) : ¬Ahead t t := List.lt_irrefl _

lemma Ahead.not_ahead {t t' : List String} (h : Ahead t t') : ¬Ahead t' t := List.lt_asymm h

lemma Ahead.trans {s t u : List String} (h : Ahead s t) (h' : Ahead t u) : Ahead s u :=
  List.lt_trans h h'

/-- Of the trails in order with some property one is the first. -/
lemma exists_first {level : List (List String)} (h : level.Pairwise Ahead)
    {p : List String → Prop} (hp : ∃ t ∈ level, p t) :
    ∃ t ∈ level, p t ∧ ∀ t' ∈ level, p t' → t' = t ∨ Ahead t t' := by
  induction level with
  | nil => simp at hp
  | cons t₀ level ih =>
    obtain ⟨hfirst, hlevel⟩ := List.pairwise_cons.1 h
    by_cases h₀ : p t₀
    · refine ⟨t₀, List.mem_cons_self, h₀, fun t' ht' _ => ?_⟩
      rcases List.mem_cons.1 ht' with rfl | ht'
      · exact .inl rfl
      · exact .inr (hfirst t' ht')
    · obtain ⟨s, hs, hps⟩ := hp
      have hne : s ≠ t₀ := by
        rintro rfl
        exact h₀ hps
      obtain ⟨t, ht, hpt, hleast⟩ := ih hlevel ⟨s, List.mem_of_ne_of_mem hne hs, hps⟩
      refine ⟨t, List.mem_cons_of_mem _ ht, hpt, fun t' ht' hp' => ?_⟩
      rcases List.mem_cons.1 ht' with rfl | ht'
      · exact absurd hp' h₀
      · exact hleast t' ht' hp'

/-! ### Shortest trails -/

structure IsShortest (g : SchemaGraph) (start : String) (t : List String) : Prop where
  trail : IsTrail g start t
  le : ∀ t', IsTrail g start t' → t'.head? = t.head? → t.length ≤ t'.length

/-- The first of the shortest trails to a table. -/
structure IsFirst (g : SchemaGraph) (start : String) (t : List String) : Prop
    extends IsShortest g start t where
  not_ahead : ∀ t', IsTrail g start t' → t'.head? = t.head? → t'.length = t.length → ¬Ahead t' t

lemma IsShortest.nodup {t : List String} (h : IsShortest g start t) : t.Nodup := by
  obtain ⟨t', ht', hhead, hnodup, hsub⟩ := h.trail.exists_nodup
  rwa [hsub.eq_of_length_le (h.le t' ht' hhead)] at hnodup

/-- What a shortest trail goes through is reached by shortest trails. -/
lemma IsShortest.tail {v u : String} {t : List String} (h : IsShortest g start (v :: u :: t)) :
    IsShortest g start (u :: t) := by
  obtain ⟨hv, hu⟩ := isTrail_cons_iff.1 h.trail
  refine ⟨hu, fun t' ht' hhead => ?_⟩
  obtain ⟨w, r, rfl⟩ := List.exists_cons_of_ne_nil ht'.ne_nil
  obtain rfl : w = u := by simpa using hhead
  have hle := h.le (v :: w :: r) (isTrail_cons_iff.2 ⟨hv, ht'⟩) rfl
  simpa using hle

lemma isBest_of_isFirst {t : List String} (h : IsFirst g start t) (hgoal : t.head? = some goal) :
    IsBest g start goal t.reverse := by
  have hwalk : IsWalk g start goal t.reverse := by
    rw [isWalk_iff_isTrail, List.reverse_reverse]
    exact ⟨h.trail, hgoal⟩
  refine ⟨hwalk, List.nodup_reverse.2 h.nodup, fun way hway => ?_, fun way hway hlen => ?_⟩
  · obtain ⟨htrail, hhead⟩ := isWalk_iff_isTrail.1 hway
    have hle := h.le way.reverse htrail (hhead.trans hgoal.symm)
    simpa using hle
  · obtain ⟨htrail, hhead⟩ := isWalk_iff_isTrail.1 hway
    have hahead := h.not_ahead way.reverse htrail (hhead.trans hgoal.symm) (by simpa using hlen)
    rw [Ahead, List.reverse_reverse, ← map_bytes_lt_iff] at hahead
    exact List.not_lt.1 hahead

/-! ### One level -/

/-- The tables that a trail can go on to. -/
def onward (g : SchemaGraph) (t : List String) : List String := g.neighbors (t.head?.getD "")

/-- Each table has its neighbours in increasing order. -/
def Ascending (g : SchemaGraph) : Prop := ∀ t, (g.neighbors t).Pairwise (· < ·)

lemma ascending_ofEdges (edges : List (String × String)) : Ascending (ofEdges edges) :=
  pairwise_neighbors edges

lemma Ascending.nodup (hg : Ascending g) (t : List String) : (onward g t).Nodup :=
  (hg _).imp fun h => ne_of_lt h

section Extend

variable (t : List String) {ns met : List String}

lemma fst_extend (h : ns.Nodup) :
    (extend t ns met).1 = (ns.filter (· ∉ met)).map (· :: t) := by
  induction ns generalizing met with
  | nil => rfl
  | cons n ns ih =>
    obtain ⟨hn, hns⟩ := List.nodup_cons.1 h
    simp only [extend]
    split
    · rename_i hm
      rw [ih hns, List.filter_cons_of_neg (by simpa using hm)]
    · rename_i hm
      have hsame : ns.filter (· ∉ n :: met) = ns.filter (· ∉ met) := by
        refine List.filter_congr fun m hm => ?_
        have hne : m ≠ n := fun h => hn (h ▸ hm)
        simp [hne]
      rw [List.filter_cons_of_pos (by simpa using hm), List.map_cons, ih hns, hsame]

lemma mem_snd_extend {v : String} : v ∈ (extend t ns met).2 ↔ v ∈ ns ∨ v ∈ met := by
  induction ns generalizing met with
  | nil => simp [extend]
  | cons n ns ih =>
    simp only [extend]
    split
    · rename_i hm
      rw [ih, List.mem_cons, or_assoc]
      refine ⟨.inr, ?_⟩
      rintro (rfl | h)
      · exact .inr hm
      · exact h
    · rw [ih, List.mem_cons, List.mem_cons, or_left_comm, or_assoc]

end Extend

lemma Ascending.fst_extend (hg : Ascending g) (t met : List String) :
    (extend t (g.neighbors (t.head?.getD "")) met).1 =
      ((onward g t).filter (· ∉ met)).map (· :: t) :=
  ShortestWay.fst_extend t (hg.nodup t)

lemma mem_snd_nextLevel {level : List (List String)} {met : List String} {v : String} :
    v ∈ (nextLevel g level met).2 ↔ v ∈ met ∨ ∃ t ∈ level, v ∈ onward g t := by
  induction level generalizing met with
  | nil => simp [nextLevel]
  | cons t level ih =>
    simp only [nextLevel]
    rw [ih, mem_snd_extend]
    simp [onward, or_assoc, or_left_comm]

/-- What is extended: of the trails of an ordered level the first that can go on to a table that was
not met. -/
lemma mem_fst_nextLevel (hg : Ascending g) {level : List (List String)}
    (h : level.Pairwise Ahead) {met : List String} {way : List String} :
    way ∈ (nextLevel g level met).1 ↔
      ∃ t ∈ level, ∃ v ∈ onward g t, v ∉ met ∧ way = v :: t ∧
        ∀ t' ∈ level, v ∈ onward g t' → t' = t ∨ Ahead t t' := by
  induction level generalizing met with
  | nil => simp [nextLevel]
  | cons t₀ level ih =>
    obtain ⟨hfirst, hlevel⟩ := List.pairwise_cons.1 h
    simp only [nextLevel]
    rw [List.mem_append, hg.fst_extend, ih hlevel]
    simp only [mem_snd_extend, List.mem_map, List.mem_filter, decide_eq_true_eq]
    constructor
    · rintro (⟨v, ⟨hv, hmet⟩, rfl⟩ | ⟨t, ht, v, hv, hmet, rfl, hbefore⟩)
      · refine ⟨t₀, List.mem_cons_self, v, hv, hmet, rfl, fun t' ht' _ => ?_⟩
        rcases List.mem_cons.1 ht' with rfl | ht'
        · exact .inl rfl
        · exact .inr (hfirst t' ht')
      · rw [not_or] at hmet
        refine ⟨t, List.mem_cons_of_mem _ ht, v, hv, hmet.2, rfl, fun t' ht' hv' => ?_⟩
        rcases List.mem_cons.1 ht' with rfl | ht'
        · exact absurd hv' hmet.1
        · exact hbefore t' ht' hv'
    · rintro ⟨t, ht, v, hv, hmet, rfl, hbefore⟩
      rcases List.mem_cons.1 ht with rfl | ht
      · exact .inl ⟨v, ⟨hv, hmet⟩, rfl⟩
      · refine .inr ⟨t, ht, v, hv, ?_, rfl, fun t' ht' => hbefore t' (List.mem_cons_of_mem _ ht')⟩
        rw [not_or]
        refine ⟨fun hv₀ => ?_, hmet⟩
        -- the trail in front would have gone on to `v`
        rcases hbefore t₀ List.mem_cons_self hv₀ with rfl | hahead
        · exact not_ahead_self t₀ (hfirst t₀ ht)
        · exact hahead.not_ahead (hfirst t ht)

lemma pairwise_fst_nextLevel (hg : Ascending g) {level : List (List String)}
    (h : level.Pairwise Ahead) {n : Nat} (hlen : ∀ t ∈ level, t.length = n) (met : List String) :
    (nextLevel g level met).1.Pairwise Ahead := by
  induction level generalizing met with
  | nil => exact .nil
  | cons t₀ level ih =>
    obtain ⟨hfirst, hlevel⟩ := List.pairwise_cons.1 h
    simp only [nextLevel]
    rw [hg.fst_extend, List.pairwise_append]
    refine ⟨?_, ih hlevel (fun t ht => hlen t (List.mem_cons_of_mem _ ht)) _,
      fun way hway way' hway' => ?_⟩
    · refine List.Pairwise.map _ (fun v v' hv => ?_) ((hg _).filter _)
      exact (ahead_cons_iff rfl).2 (.inr ⟨rfl, hv⟩)
    · obtain ⟨v, -, rfl⟩ := List.mem_map.1 hway
      obtain ⟨t, ht, v', -, -, rfl, -⟩ := (mem_fst_nextLevel hg hlevel).1 hway'
      have hsame : t₀.length = t.length := by
        rw [hlen t₀ List.mem_cons_self, hlen t (List.mem_cons_of_mem _ ht)]
      exact (ahead_cons_iff hsame).2 (.inl (hfirst t ht))

/-! ### Level by level -/

/-- A table that is at most `n` steps away. -/
def Within (g : SchemaGraph) (start : String) (n : Nat) (v : String) : Prop :=
  ∃ t, IsTrail g start t ∧ t.head? = some v ∧ t.length ≤ n + 1

/-- What the search holds after `n` levels: the first trail to each table that is `n` steps away, in
order, and all tables that are no farther. -/
structure IsLevel (g : SchemaGraph) (start : String) (n : Nat) (level : List (List String))
    (met : List String) : Prop where
  first : ∀ t ∈ level, IsFirst g start t ∧ t.length = n + 1
  complete : ∀ t, IsShortest g start t → t.length = n + 1 → ∃ t' ∈ level, t'.head? = t.head?
  ordered : level.Pairwise Ahead
  met_iff : ∀ v, v ∈ met ↔ Within g start n v

/-- A trail one step longer than what is within reach is a shortest one. -/
lemma isShortest_of_beyond {n : Nat} {t : List String} {v : String} (ht : IsTrail g start t)
    (hhead : t.head? = some v) (hlen : t.length ≤ n + 2) (hv : ¬Within g start n v) :
    IsShortest g start t ∧ t.length = n + 2 := by
  have hbeyond : ∀ t', IsTrail g start t' → t'.head? = some v → n + 2 ≤ t'.length := by
    intro t' ht' hhead'
    by_contra hlt
    exact hv ⟨t', ht', hhead', by omega⟩
  exact ⟨⟨ht, fun t' ht' hsame => hlen.trans (hbeyond t' ht' (hsame.trans hhead))⟩,
    le_antisymm hlen (hbeyond t ht hhead)⟩

lemma eq_singleton_of_trail {t : List String} (h : IsTrail g start t) (hlen : t.length ≤ 1) :
    t = [start] := by
  obtain ⟨v, r, rfl⟩ := List.exists_cons_of_ne_nil h.ne_nil
  obtain rfl : r = [] := List.length_eq_zero_iff.1 (by simpa using hlen)
  have hv : v = start := by simpa using h.last
  rw [hv]

lemma isFirst_singleton : IsFirst g start [start] := by
  refine ⟨⟨isTrail_singleton, fun t' ht' _ => ?_⟩, fun t' ht' _ hlen => ?_⟩
  · exact List.length_pos_iff.2 ht'.ne_nil
  · rw [eq_singleton_of_trail ht' (le_of_eq hlen)]
    exact not_ahead_self _

lemma isLevel_start : IsLevel g start 0 [[start]] [start] := by
  refine ⟨fun t ht => ?_, fun t ht hlen => ?_, List.pairwise_singleton _ _, fun v => ?_⟩
  · rw [List.mem_singleton.1 ht]
    exact ⟨isFirst_singleton, rfl⟩
  · rw [eq_singleton_of_trail ht.trail (le_of_eq hlen)]
    exact ⟨[start], by simp, rfl⟩
  · rw [List.mem_singleton]
    constructor
    · rintro rfl
      exact ⟨[v], isTrail_singleton, rfl, le_rfl⟩
    · rintro ⟨t, ht, hhead, hlen⟩
      rw [eq_singleton_of_trail ht hlen] at hhead
      simpa using hhead.symm

section Step

variable {n : Nat} {level : List (List String)} {met : List String}

/-- A shortest trail that is one step longer goes through the end of a trail of the level. -/
lemma IsLevel.exists_onward (h : IsLevel g start n level met) {v u : String} {t : List String}
    (ht : IsShortest g start (v :: u :: t)) (hlen : (v :: u :: t).length = n + 2) :
    ∃ t' ∈ level, t'.head? = some u ∧ v ∈ onward g t' := by
  obtain ⟨t', ht', hhead⟩ := h.complete (u :: t) ht.tail (by simpa using hlen)
  have hhead' : t'.head? = some u := hhead
  refine ⟨t', ht', hhead', ?_⟩
  rw [onward, hhead']
  exact (isTrail_cons_iff.1 ht.trail).1

lemma exists_eq_cons_cons {t : List String} {v : String} (hhead : t.head? = some v)
    (hlen : t.length = n + 2) : ∃ u r, t = v :: u :: r := by
  match t, hhead, hlen with
  | w :: u :: r, hhead, _ =>
    obtain rfl : w = v := by simpa using hhead
    exact ⟨u, r, rfl⟩

lemma IsLevel.trail_cons (h : IsLevel g start n level met) {t : List String} (ht : t ∈ level)
    {v : String} (hv : v ∈ onward g t) :
    IsTrail g start (v :: t) ∧ (v :: t).length = n + 2 := by
  obtain ⟨hfirst, hlen⟩ := h.first t ht
  obtain ⟨u, r, rfl⟩ := List.exists_cons_of_ne_nil hfirst.trail.ne_nil
  exact ⟨isTrail_cons_iff.2 ⟨hv, hfirst.trail⟩, by rw [List.length_cons, hlen]⟩

lemma IsLevel.met_next (h : IsLevel g start n level met) (v : String) :
    v ∈ (nextLevel g level met).2 ↔ Within g start (n + 1) v := by
  rw [mem_snd_nextLevel]
  constructor
  · rintro (hv | ⟨t, ht, hv⟩)
    · obtain ⟨t, ht, hhead, hlen⟩ := (h.met_iff v).1 hv
      exact ⟨t, ht, hhead, by omega⟩
    · obtain ⟨htrail, hlen⟩ := h.trail_cons ht hv
      exact ⟨v :: t, htrail, rfl, le_of_eq hlen⟩
  · rintro ⟨t, ht, hhead, hlen⟩
    by_cases hv : v ∈ met
    · exact .inl hv
    · rw [h.met_iff] at hv
      obtain ⟨hshortest, hlong⟩ := isShortest_of_beyond ht hhead hlen hv
      obtain ⟨u, r, rfl⟩ := exists_eq_cons_cons hhead hlong
      obtain ⟨t', ht', -, hon⟩ := h.exists_onward hshortest hlong
      exact .inr ⟨t', ht', hon⟩

/-- A new trail comes first among the trails as long: what it extends does, and no earlier trail of
the level could be extended to the same table. -/
lemma IsLevel.first_next (hg : Ascending g) (h : IsLevel g start n level met) {way : List String}
    (hway : way ∈ (nextLevel g level met).1) :
    IsFirst g start way ∧ way.length = n + 2 := by
  obtain ⟨t, ht, v, hv, hmet, rfl, hbefore⟩ := (mem_fst_nextLevel hg h.ordered).1 hway
  obtain ⟨htrail, hlen⟩ := h.trail_cons ht hv
  rw [h.met_iff] at hmet
  obtain ⟨hshortest, -⟩ := isShortest_of_beyond htrail rfl (le_of_eq hlen) hmet
  refine ⟨⟨hshortest, fun t' ht' hhead hlen' hahead => ?_⟩, hlen⟩
  have hlong : t'.length = n + 2 := hlen'.trans hlen
  obtain ⟨u, r, rfl⟩ := exists_eq_cons_cons hhead hlong
  obtain ⟨hshortest', -⟩ := isShortest_of_beyond ht' hhead (le_of_eq hlong) hmet
  obtain ⟨s, hs, hhead', hon⟩ := h.exists_onward hshortest' hlong
  have hlevel : (u :: r).length = t.length := by simpa using hlen'
  rcases (ahead_cons_iff hlevel).1 hahead with hlt | ⟨-, hlt⟩
  · -- `u :: r` would come before the trail of the level that leads to `u`
    have hfirst : ¬Ahead (u :: r) s := by
      refine (h.first s hs).1.not_ahead _ (isTrail_cons_iff.1 ht').2 hhead'.symm ?_
      rw [hlevel, (h.first s hs).2, (h.first t ht).2]
    rcases hbefore s hs hon with rfl | hts
    · exact hfirst hlt
    · exact hfirst (hlt.trans hts)
  · exact lt_irrefl v hlt

lemma IsLevel.complete_next (hg : Ascending g) (h : IsLevel g start n level met)
    {t : List String} (ht : IsShortest g start t) (hlen : t.length = n + 2) :
    ∃ way ∈ (nextLevel g level met).1, way.head? = t.head? := by
  obtain ⟨v, hhead⟩ : ∃ v, t.head? = some v := by
    obtain ⟨v, r, rfl⟩ := List.exists_cons_of_ne_nil ht.trail.ne_nil
    exact ⟨v, rfl⟩
  have hv : v ∉ met := by
    intro hm
    obtain ⟨t', ht', hhead', hlen'⟩ := (h.met_iff v).1 hm
    have hle := ht.le t' ht' (hhead'.trans hhead.symm)
    omega
  obtain ⟨u, r, rfl⟩ := exists_eq_cons_cons hhead hlen
  obtain ⟨s, hs, -, hon⟩ := h.exists_onward ht hlen
  obtain ⟨t', ht', hon', hleast⟩ :=
    exists_first h.ordered (p := fun t => v ∈ onward g t) ⟨s, hs, hon⟩
  exact ⟨v :: t', (mem_fst_nextLevel hg h.ordered).2 ⟨t', ht', v, hon', hv, rfl, hleast⟩, rfl⟩

/-- **One level further.** -/
theorem IsLevel.next (hg : Ascending g) (h : IsLevel g start n level met) :
    IsLevel g start (n + 1) (nextLevel g level met).1 (nextLevel g level met).2 where
  first _ hway := h.first_next hg hway
  complete _ ht hlen := h.complete_next hg ht hlen
  ordered := pairwise_fst_nextLevel hg h.ordered (fun t ht => (h.first t ht).2) met
  met_iff := h.met_next

end Step

/-! ### The search -/

lemma search_nil (levels : Nat) (met : List String) : search g goal levels [] met = [] := by
  cases levels <;> simp [search, nextLevel]

/-- A level without trails need not be asked for. -/
lemma search_succ (levels : Nat) (level : List (List String)) (met : List String) :
    search g goal (levels + 1) level met =
      match (nextLevel g level met).1.find? fun t => t.head? == some goal with
      | some t => t.reverse
      | none => search g goal levels (nextLevel g level met).1 (nextLevel g level met).2 := by
  simp only [search]
  cases (nextLevel g level met).1.find? fun t => t.head? == some goal with
  | some t => rfl
  | none =>
    dsimp only
    split
    · rename_i h
      rw [List.isEmpty_iff.1 h, search_nil]
    · rfl

/-- **The search** ends with the first of the shortest trails to the goal, or the goal is farther
than the levels go. -/
theorem search_cases (hg : Ascending g) (levels : Nat) {n : Nat} {level : List (List String)}
    {met : List String} (h : IsLevel g start n level met) (hgoal : ¬Within g start n goal) :
    (∃ t, IsFirst g start t ∧ t.head? = some goal ∧ search g goal levels level met = t.reverse) ∨
      ¬Within g start (n + levels) goal ∧ search g goal levels level met = [] := by
  induction levels generalizing n level met with
  | zero => exact .inr ⟨hgoal, rfl⟩
  | succ levels ih =>
    have hnext := h.next hg
    rw [search_succ]
    cases hfind : (nextLevel g level met).1.find? fun t => t.head? == some goal with
    | some t =>
      have hhead : t.head? = some goal := by simpa using List.find?_some hfind
      exact .inl ⟨t, (hnext.first t (List.mem_of_find?_eq_some hfind)).1, hhead, rfl⟩
    | none =>
      have hfar : ¬Within g start (n + 1) goal := by
        rintro ⟨t, ht, hhead, hlen⟩
        obtain ⟨hshortest, hlong⟩ := isShortest_of_beyond ht hhead hlen hgoal
        obtain ⟨way, hway, hsame⟩ := hnext.complete t hshortest hlong
        have hnot := List.find?_eq_none.1 hfind way hway
        exact hnot (by simp [hsame, hhead])
      rw [← Nat.add_assoc, Nat.add_right_comm]
      exact ih hnext hfar

/-! ### How far the levels go -/

lemma mem_names_of_neighbor {t u : String} (h : u ∈ g.neighbors t) : t ∈ g.adjacency.names := by
  rw [SchemaGraph.neighbors] at h
  cases hget : g.adjacency.get? t with
  | none => simp [hget] at h
  | some ns => exact List.mem_map_of_mem (mem_entries_iff.2 hget)

/-- All tables of a trail but its end have a neighbour. -/
lemma IsTrail.mem_names {v : String} {t : List String} (h : IsTrail g start (v :: t)) :
    ∀ u ∈ t, u ∈ g.adjacency.names := by
  induction t generalizing v with
  | nil => simp
  | cons u t ih =>
    obtain ⟨hv, hu⟩ := isTrail_cons_iff.1 h
    intro w hw
    rcases List.mem_cons.1 hw with rfl | hw
    · exact mem_names_of_neighbor hv
    · exact ih hu w hw

lemma IsTrail.length_le {t : List String} (h : IsTrail g start t) (hnodup : t.Nodup) :
    t.length ≤ g.adjacency.entries.length + 1 := by
  obtain ⟨v, r, rfl⟩ := List.exists_cons_of_ne_nil h.ne_nil
  have hsub : r.Subperm g.adjacency.names :=
    List.subperm_of_subset (List.nodup_cons.1 hnodup).2 h.mem_names
  have hle := hsub.length_le
  rw [NameMap.names, List.length_map] at hle
  rw [List.length_cons]
  omega

/-- A goal that can be reached at all is within reach of the search. -/
lemma within_of_isWalk {path : List String} (h : IsWalk g start goal path) :
    Within g start (g.adjacency.entries.length + 1) goal := by
  obtain ⟨htrail, hhead⟩ := isWalk_iff_isTrail.1 h
  obtain ⟨t, ht, hsame, hnodup, -⟩ := htrail.exists_nodup
  have hle := ht.length_le hnodup
  exact ⟨t, ht, hsame.trans hhead, by omega⟩

/-- **The way that is found** is the best there is; where none is found there is none. -/
theorem joinPath_cases (hg : Ascending g) (start goal : String) :
    IsBest g start goal (g.joinPath start goal) ∨
      g.joinPath start goal = [] ∧ ¬∃ path, IsWalk g start goal path := by
  unfold joinPath
  by_cases h : start = goal
  · subst h
    rw [if_pos rfl]
    exact .inl (isBest_of_isFirst isFirst_singleton rfl)
  · rw [if_neg h]
    have hgoal : ¬Within g start 0 goal := by
      rw [← isLevel_start.met_iff, List.mem_singleton]
      exact fun hm => h hm.symm
    rcases search_cases hg (g.adjacency.entries.length + 1) isLevel_start hgoal with
      ⟨t, ht, hhead, heq⟩ | ⟨hfar, heq⟩
    · rw [heq]
      exact .inl (isBest_of_isFirst ht hhead)
    · refine .inr ⟨heq, ?_⟩
      rintro ⟨path, hpath⟩
      rw [Nat.zero_add] at hfar
      exact hfar (within_of_isWalk hpath)

lemma IsWalk.ne_nil {path : List String} (h : IsWalk g start goal path) : path ≠ [] := by
  rintro rfl
  cases h.head

lemma joinPath_eq_nil_iff (hg : Ascending g) :
    g.joinPath start goal = [] ↔ ¬∃ path, IsWalk g start goal path := by
  rcases joinPath_cases hg start goal with hbest | ⟨hnil, hnone⟩
  · exact iff_of_false hbest.walk.ne_nil fun hnone => hnone ⟨_, hbest.walk⟩
  · exact iff_of_true hnil hnone

lemma isBest_joinPath_iff (hg : Ascending g) :
    IsBest g start goal (g.joinPath start goal) ↔ ∃ path, IsWalk g start goal path := by
  refine ⟨fun h => ⟨_, h.walk⟩, fun h => ?_⟩
  exact (joinPath_cases hg start goal).resolve_right fun hnone => hnone.2 h

/-- **Shortest ways.** For the graph of any edges and any two tables, no way is given exactly when
there is none; where there is one, the way that is given repeats no table, is as short as any, and
comes first in the order of names among those as short. A table leads to itself at once. -/
theorem joinPath_best (edges : List (String × String)) :
    (∀ start goal,
      ((ofEdges edges).joinPath start goal = [] ↔
        ¬∃ path, IsWalk (ofEdges edges) start goal path) ∧
      (IsBest (ofEdges edges) start goal ((ofEdges edges).joinPath start goal) ↔
        ∃ path, IsWalk (ofEdges edges) start goal path)) ∧
    ∀ t, (ofEdges edges).joinPath t t = [t] := by
  have hg := ascending_ofEdges edges
  refine ⟨fun start goal => ⟨joinPath_eq_nil_iff hg, isBest_joinPath_iff hg⟩, fun t => ?_⟩
  rw [joinPath, if_pos rfl]

/-- Of two ways as short the one through the smaller name is given, also where the other edge comes
first. -/
example :
    (ofEdges [("a", "c"), ("c", "d"), ("d", "b"), ("b", "a"), ("d", "d")]).joinPath "a" "d" =
      ["a", "b", "d"] := by
  decide +kernel

end QueryGuard.Proofs.ShortestWay
