import Mathlib.Data.Nat.Find
import Mathlib.Order.Bounds.Basic
import QueryGuard.Outline.Basic
import QueryGuard.Proofs.ClauseBodies
import QueryGuard.Proofs.SpacedParts

/-!
Clauses as slices of any text.

A clause opens at the first place where its keywords stand with a gap behind them, and its slice
goes from the end of that gap to the first place where a later clause begins, or to the end of the
text. All this is said of places in the text, without a scan: whatever the text is, what is read of
a clause is read off its slice.
-/

namespace QueryGuard.Proofs.ClauseSlices

open Text TextRuns LowerImage Places ClauseBodies SpacedParts Clause

/-! ### Places -/

/-- The keywords begin at place `p`. -/
def BeginsAt (words : List String) (s : List Char) (p : Nat) : Prop :=
  ∃ t, Spaced words t ∧ t <+: s.drop p

/-- The keywords begin at place `p`, and the gap behind them ends at place `i`. -/
def OpensAt (words : List String) (s : List Char) (p i : Nat) : Prop :=
  ∃ t g r, Spaced words t ∧ IsGap g ∧ Flush r ∧ s.drop p = t ++ (g ++ r) ∧ i = p + (t ++ g).length

/-- The word begins at place `p`, and no word character is beside it. -/
def AloneAt (word : String) (s : List Char) (p : Nat) : Prop :=
  word.toList <+: s.drop p ∧ (∀ c ∈ (s.take p).getLast?, isWordChar c = false) ∧
    ∀ c ∈ (s.drop (p + word.length)).head?, isWordChar c = false

/-- A GROUP BY, an ORDER BY or a LIMIT begins at place `p`. -/
def EndsWhereAt (s : List Char) (p : Nat) : Prop :=
  BeginsAt ["group", "by"] s p ∨ BeginsAt ["order", "by"] s p ∨ AloneAt "limit" s p

/-- An ORDER BY or a LIMIT begins at place `p`. -/
def EndsGroupAt (s : List Char) (p : Nat) : Prop :=
  BeginsAt ["order", "by"] s p ∨ AloneAt "limit" s p

/-- From place `i` to place `j` is the slice of the clause that the keywords open first. -/
structure IsSlice (words : List String) (EndsAt : List Char → Nat → Prop) (s : List Char)
    (i j : Nat) : Prop where
  opens : ∃ p, OpensAt words s p i ∧ ∀ q < p, ∀ k, ¬OpensAt words s q k
  ends : IsLeast {j | i ≤ j ∧ (EndsAt s j ∨ j = s.length)} j

/-- What was found is read off the slice of the clause, which there is if the keywords open one. -/
structure ReadsSlice (words : List String) (EndsAt : List Char → Nat → Prop)
    (read : List Char → List String) (s : List Char) (found : List String) : Prop where
  absent : (∀ p i, ¬OpensAt words s p i) → found = []
  exists_slice : ∀ p k, OpensAt words s p k → ∃ i j, IsSlice words EndsAt s i j
  present : ∀ i j, IsSlice words EndsAt s i j → found = read ((s.take j).drop i)

/-! ### Marks and places -/

variable {s : List Char} {p i j : Nat} {first second word : String}

lemma endsInWord_false_iff {u : List Char} :
    endsInWord false u = false ↔ ∀ c ∈ u.getLast?, isWordChar c = false := by
  induction u using List.reverseRecOn with
  | nil => simp
  | append_singleton u c => simp [endsInWord]

lemma endsInWord_gap {g : List Char} (hg : IsGap g) (inWord : Bool) :
    endsInWord inWord g = false := by
  have hlast := hg.blank _ (List.getLast_mem hg.ne_nil)
  rw [← List.dropLast_append_getLast hg.ne_nil, endsInWord_append]
  exact not_word_of_blank hlast

lemma pairMark_iff {inWord : Bool} (hne : second.toList ≠ []) (hflush : Flush second.toList) :
    pairMark first second inWord (s.drop p) = true ↔ BeginsAt [first, second] s p := by
  rw [← isSome_pair?, Option.isSome_iff_exists]
  simp only [pair?_eq_some_iff hne hflush]
  constructor
  · rintro ⟨r, t, ht, h⟩
    exact ⟨t, ht, r, h.symm⟩
  · rintro ⟨t, ht, r, h⟩
    exact ⟨r, t, ht, h.symm⟩

lemma aloneMark_iff :
    aloneMark word (endsInWord false (s.take p)) (s.drop p) = true ↔ AloneAt word s p := by
  have hbehind : ((s.drop p).drop word.length).head?.any isWordChar = false ↔
      ∀ c ∈ (s.drop (p + word.length)).head?, isWordChar c = false := by
    rw [List.drop_drop]
    cases (s.drop (p + word.length)).head? <;> simp
  rw [aloneMark, Bool.and_eq_true, Bool.and_eq_true, Bool.not_eq_true', Bool.not_eq_true',
    endsInWord_false_iff, hbehind, List.isPrefixOf_iff_prefix, AloneAt]
  tauto

lemma groupMark_iff {inWord : Bool} :
    groupMark inWord (s.drop p) = true ↔ BeginsAt ["group", "by"] s p :=
  pairMark_iff (by decide +kernel) (by decide +kernel)

lemma orderMark_iff {inWord : Bool} :
    orderMark inWord (s.drop p) = true ↔ BeginsAt ["order", "by"] s p :=
  pairMark_iff (by decide +kernel) (by decide +kernel)

lemma endsWhere_iff :
    endsWhere (endsInWord false (s.take p)) (s.drop p) = true ↔ EndsWhereAt s p := by
  rw [endsWhere_eq, Bool.or_eq_true, Bool.or_eq_true, groupMark_iff, orderMark_iff, limitMark,
    aloneMark_iff, EndsWhereAt]

lemma endsGroup_iff :
    endsGroup (endsInWord false (s.take p)) (s.drop p) = true ↔ EndsGroupAt s p := by
  rw [endsGroup_eq, Bool.or_eq_true, orderMark_iff, limitMark, aloneMark_iff, EndsGroupAt]

lemma endsOrder_iff :
    endsOrder (endsInWord false (s.take p)) (s.drop p) = true ↔ AloneAt "limit" s p := by
  rw [endsOrder_eq, limitMark, aloneMark_iff]

/-! ### First places -/

section First

variable {α : Type} {m : List Char → Option α}

lemma firstMatch?_of_first (hp : p < s.length) (hbefore : ∀ q < p, m (s.drop q) = none) {a : α}
    (ha : m (s.drop p) = some a) : firstMatch? m s = some a := by
  induction s generalizing p with
  | nil => exact absurd hp (Nat.not_lt_zero p)
  | cons c s ih =>
    cases p with
    | zero =>
      rw [List.drop_zero] at ha
      rw [firstMatch?, ha]
      rfl
    | succ p =>
      have hnone : m (c :: s) = none := hbefore 0 (Nat.succ_pos p)
      rw [firstMatch?, hnone]
      exact ih (Nat.lt_of_succ_lt_succ hp) (fun q hq => hbefore (q + 1) (Nat.succ_lt_succ hq)) ha

lemma firstMatch?_eq_none (h : ∀ p, m (s.drop p) = none) : firstMatch? m s = none := by
  induction s with
  | nil => rfl
  | cons c s ih =>
    have hnone : m (c :: s) = none := h 0
    rw [firstMatch?, hnone]
    exact ih fun p => h (p + 1)

/-- A text is cut at the first place where it stops. -/
lemma upTo_eq_take {stop : Mark} {inWord : Bool} {n : Nat} (hle : n ≤ s.length)
    (hbefore : ∀ k < n, stop (endsInWord inWord (s.take k)) (s.drop k) = false)
    (hn : stop (endsInWord inWord (s.take n)) (s.drop n) = true ∨ n = s.length) :
    upTo stop inWord s = s.take n := by
  induction s generalizing n inWord with
  | nil => simp
  | cons c s ih =>
    cases n with
    | zero =>
      have hstop : stop inWord (c :: s) = true := hn.resolve_right (by simp)
      rw [upTo, if_pos hstop, List.take_zero]
    | succ n =>
      have hgo : stop inWord (c :: s) = false := hbefore 0 (Nat.succ_pos n)
      rw [upTo, if_neg (by simp [hgo]), List.take_succ_cons,
        ih (Nat.le_of_succ_le_succ hle) (fun k hk => hbefore (k + 1) (Nat.succ_lt_succ hk))
          (hn.imp_right Nat.succ.inj)]

end First

/-! ### Slices -/

section Slices

variable {words : List String} {start? : List Char → Option (List Char)} {stop : Mark}
  {EndsAt : List Char → Nat → Prop}

lemma OpensAt.bounds (h : OpensAt words s p i) : p < i ∧ i ≤ s.length := by
  obtain ⟨t, g, r, -, hg, -, hs, rfl⟩ := h
  have hlen := congrArg List.length hs
  have hpos := List.length_pos_of_ne_nil hg.ne_nil
  simp only [List.length_drop, List.length_append] at hlen ⊢
  omega

lemma OpensAt.drop (h : OpensAt words s p i) : OpensWith words (s.drop p) (s.drop i) := by
  obtain ⟨t, g, r, ht, hg, hr, hs, rfl⟩ := h
  have hdrop : s.drop (p + (t ++ g).length) = r := by
    rw [← List.drop_drop, hs, ← List.append_assoc, List.drop_left]
  rw [hdrop]
  exact ⟨t, g, ht, hg, hr, hs⟩

/-- The gap separates the slice from the keywords, so its first word is not the end of another. -/
lemma OpensAt.endsInWord (h : OpensAt words s p i) : endsInWord false (s.take i) = false := by
  obtain ⟨t, g, r, -, hg, -, hs, rfl⟩ := h
  have htake : s.take (p + (t ++ g).length) = s.take p ++ t ++ g := by
    rw [List.take_add, hs, ← List.append_assoc t, List.take_left, List.append_assoc]
  rw [htake, endsInWord_append, endsInWord_gap hg]

variable (hstart : ∀ s r, start? s = some r ↔ OpensWith words s r)
include hstart

lemma start?_of_opensAt (h : OpensAt words s p i) : start? (s.drop p) = some (s.drop i) :=
  (hstart _ _).2 h.drop

lemma start?_eq_none (h : ∀ i, ¬OpensAt words s p i) : start? (s.drop p) = none := by
  rw [Option.eq_none_iff_forall_ne_some]
  intro r hr
  obtain ⟨t, g, ht, hg, hr, hs⟩ := (hstart _ _).1 hr
  exact h _ ⟨t, g, r, ht, hg, hr, hs, rfl⟩

variable (hstop : ∀ s p, stop (endsInWord false (s.take p)) (s.drop p) = true ↔ EndsAt s p)
include hstop

lemma body?_of_isSlice (h : IsSlice words EndsAt s i j) :
    body? start? stop s = some ((s.take j).drop i) := by
  obtain ⟨⟨p, hopen, hfirst⟩, ⟨hij, hend⟩, hleast⟩ := h
  obtain ⟨hpi, hi⟩ := hopen.bounds
  have hj : j ≤ s.length := hleast ⟨hi, .inr rfl⟩
  have hstarted : firstMatch? start? s = some (s.drop i) :=
    firstMatch?_of_first (by omega) (fun q hq => start?_eq_none hstart (hfirst q hq))
      (start?_of_opensAt hstart hopen)
  -- inside the slice the text stops where the whole text does
  have hplace : ∀ k, stop (endsInWord false ((s.drop i).take k)) ((s.drop i).drop k) = true ↔
      EndsAt s (i + k) := by
    intro k
    rw [← hstop, List.take_add, endsInWord_append, hopen.endsInWord, List.drop_drop]
  have hcut : upTo stop false (s.drop i) = (s.drop i).take (j - i) := by
    refine upTo_eq_take ?_ (fun k hk => ?_) ?_
    · rw [List.length_drop]
      omega
    · rw [← Bool.not_eq_true, hplace]
      intro hk'
      have := hleast ⟨Nat.le_add_right i k, .inl hk'⟩
      omega
    · rw [hplace, List.length_drop, Nat.add_sub_cancel' hij]
      exact hend.imp_right fun h => by rw [h]
  rw [body?, hstarted, Option.map_some, hcut, List.drop_take]

omit hstart hstop in
lemma exists_isSlice (h : OpensAt words s p i) : ∃ i j, IsSlice words EndsAt s i j := by
  classical
  have hopen : ∃ p k, OpensAt words s p k := ⟨p, i, h⟩
  obtain ⟨k, hk⟩ := Nat.find_spec hopen
  have hfirst : ∀ q < Nat.find hopen, ∀ k, ¬OpensAt words s q k :=
    fun q hq k hq' => Nat.find_min hopen hq ⟨k, hq'⟩
  have hend : ∃ j, k ≤ j ∧ (EndsAt s j ∨ j = s.length) := ⟨s.length, hk.bounds.2, .inr rfl⟩
  exact ⟨k, Nat.find hend, ⟨_, hk, hfirst⟩, Nat.find_spec hend, fun j hj => Nat.find_min' hend hj⟩

/-- What is read of a clause is read off its slice. -/
lemma readsSlice_body? (read : List Char → List String) (s : List Char) :
    ReadsSlice words EndsAt read s (((body? start? stop s).map read).getD []) where
  absent h := by
    have hnone : firstMatch? start? s = none :=
      firstMatch?_eq_none fun p => start?_eq_none hstart (h p)
    rw [body?, hnone]
    rfl
  exists_slice p k h := exists_isSlice h
  present i j h := by
    rw [body?_of_isSlice hstart hstop h]
    rfl

end Slices

/-! ### Results -/

/-- The slice without the blanks around it, unless nothing is left. -/
def condition (slice : List Char) : List String :=
  if trim slice = [] then [] else [String.ofList (trim slice)]

/-- The pieces of the slice between its commas, without the blanks around them and without those of
which nothing is left. -/
def pieces (slice : List Char) : List String :=
  ((slice.splitOn ',').map trim |>.filter (· ≠ [])).map String.ofList

lemma items_eq_pieces : items = pieces := by
  funext slice
  rw [items, pieces, splitWhere_eq_splitOnP]
  rfl

lemma filters_eq (text : String) : filters text =
    ((body? (after? "where") endsWhere text.toList).map condition).getD [] := by
  unfold filters
  cases body? (after? "where") endsWhere text.toList with
  | none => rfl
  | some clause =>
    by_cases h : trim clause = [] <;> simp [condition, h]

/-- **Clauses are slices.** The condition is the slice behind the first WHERE of any text, up to a
GROUP BY, an ORDER BY or a LIMIT. In the lower case of any statement the groups are the pieces of
the slice behind the first GROUP BY, up to an ORDER BY or a LIMIT, and the orders those of the slice
behind the first ORDER BY, up to a LIMIT. -/
theorem clauses_are_slices :
    (∀ text : String, ReadsSlice ["where"] EndsWhereAt condition text.toList (filters text)) ∧
    ∀ (sql : String) (schema : Option Schema),
      ReadsSlice ["group", "by"] EndsGroupAt pieces (lower sql.toList)
        (Outline.ofSql sql schema).groupBy ∧
      ReadsSlice ["order", "by"] (AloneAt "limit") pieces (lower sql.toList)
        (Outline.ofSql sql schema).orderBy := by
  have hby (word : String) : ∀ s r, (pair? word "by" s).bind blanks? = some r ↔
      OpensWith [word, "by"] s r :=
    fun _ _ => pair?_blanks?_eq_some_iff (by decide +kernel) (by decide +kernel)
  refine ⟨fun text => ?_, fun sql schema => ⟨?_, ?_⟩⟩
  · rw [filters_eq]
    exact readsSlice_body? (fun _ _ => after?_eq_some_iff) (fun _ _ => endsWhere_iff) condition
      text.toList
  · rw [← toList_lowerCase, ← items_eq_pieces]
    exact readsSlice_body? (hby "group") (fun _ _ => endsGroup_iff) items (lowerCase sql).toList
  · rw [← toList_lowerCase, ← items_eq_pieces]
    exact readsSlice_body? (hby "order") (fun _ _ => endsOrder_iff) items (lowerCase sql).toList

/-- A WHERE inside a word opens the clause, and a LIMIT inside a word does not end it. -/
example : filters "select nowhere \t a = limits\ngroup\n by b" = ["a = limits"] := by
  decide +kernel

end QueryGuard.Proofs.ClauseSlices
