import QueryGuard.Outline.Basic
import QueryGuard.Proofs.LowerParts
import QueryGuard.Proofs.ShownClauses

/-!
What a query was assembled from is read back.

A query puts keywords between its parts: the tables stand behind FROM and JOIN, and the clauses
follow, each of them present or absent. The parts may hold whatever they like as long as each
keyword occurs only where the query puts it. The tables are then read one by one, as many as there
are keywords, and each clause from its keyword to the next clause.
-/

namespace QueryGuard.Proofs.AssembledQuery

open Text TextRuns LowerImage LowerParts Places ClauseNames ClauseBodies ShownClauses Clause
open NamedTables (JoinClause Cut not_word_space)

/-! ### Queries -/

def joinText (j : JoinClause) : String := " join " ++ j.table ++ " on " ++ j.condition

structure Query where
  selected : String
  first : String
  joins : List JoinClause := []
  filter : Option String := none
  groups : List String := []
  orders : List String := []
  limit : Option Nat := none

def Query.names (q : Query) : List String := q.first :: q.joins.map JoinClause.table

def Query.sql (q : Query) : String :=
  "select " ++ q.selected ++ " from " ++ q.first ++ String.join (q.joins.map joinText) ++
    clauseText "where" q.filter ++ clauseText "group by" (listing? q.groups) ++
    clauseText "order by" (listing? q.orders) ++ clauseText "limit" (q.limit.map toString)

def behindLastDot (name : String) : String := String.ofList (name.toList.rtakeWhile (· ≠ '.'))

structure IsTable (name : String) : Prop where
  signs : name.toList.all isDottedChar = true
  last : behindLastDot name ≠ ""

/-- Each keyword occurs as often as the query puts it somewhere, and so nowhere else. -/
structure KeywordsAsShown (q : Query) : Prop where
  fromWord : occurrences (wordMark "from") q.sql = 1
  joinWord : occurrences (wordMark "join") q.sql = q.joins.length
  whereWord : occurrences (wordMark "where") q.sql = q.filter.toList.length
  groupBy : occurrences groupMark q.sql = (listing? q.groups).toList.length
  orderBy : occurrences orderMark q.sql = (listing? q.orders).toList.length
  limitWord : occurrences limitMark q.sql = (q.limit.map toString).toList.length

structure Query.WellFormed (q : Query) : Prop where
  selected : IsPart q.selected
  names : ∀ name ∈ q.names, IsTable name
  conditions : ∀ j ∈ q.joins, IsPart j.condition
  filter : ∀ w ∈ q.filter, IsPart w
  items : ∀ item ∈ q.groups ++ q.orders, IsPart item ∧ ',' ∉ item.toList
  limit : ∀ n ∈ q.limit, n < Decimal.words64
  keywords : KeywordsAsShown q

instance (name : String) : Decidable (IsTable name) :=
  decidable_of_iff (name.toList.all isDottedChar = true ∧ behindLastDot name ≠ "")
    ⟨fun ⟨hsigns, hlast⟩ => ⟨hsigns, hlast⟩, fun ⟨hsigns, hlast⟩ => ⟨hsigns, hlast⟩⟩

instance (q : Query) : Decidable (KeywordsAsShown q) :=
  decidable_of_iff (occurrences (wordMark "from") q.sql = 1 ∧
      occurrences (wordMark "join") q.sql = q.joins.length ∧
      occurrences (wordMark "where") q.sql = q.filter.toList.length ∧
      occurrences groupMark q.sql = (listing? q.groups).toList.length ∧
      occurrences orderMark q.sql = (listing? q.orders).toList.length ∧
      occurrences limitMark q.sql = (q.limit.map toString).toList.length)
    ⟨fun ⟨hf, hj, hw, hg, ho, hl⟩ => ⟨hf, hj, hw, hg, ho, hl⟩,
      fun ⟨hf, hj, hw, hg, ho, hl⟩ => ⟨hf, hj, hw, hg, ho, hl⟩⟩

instance (q : Query) : Decidable q.WellFormed :=
  decidable_of_iff (IsPart q.selected ∧ (∀ name ∈ q.names, IsTable name) ∧
      (∀ j ∈ q.joins, IsPart j.condition) ∧ (∀ w ∈ q.filter, IsPart w) ∧
      (∀ item ∈ q.groups ++ q.orders, IsPart item ∧ ',' ∉ item.toList) ∧
      (∀ n ∈ q.limit, n < Decimal.words64) ∧ KeywordsAsShown q)
    ⟨fun ⟨hs, hn, hc, hf, hi, hl, hk⟩ => ⟨hs, hn, hc, hf, hi, hl, hk⟩,
      fun ⟨hs, hn, hc, hf, hi, hl, hk⟩ => ⟨hs, hn, hc, hf, hi, hl, hk⟩⟩

/-! ### Lower case -/

lemma isLow_of_isDottedChar {c : Char} (h : isDottedChar c = true) : IsLow c := by
  have hlower : c.toLower = c :=
    ascii_induction (motive := fun c => isDottedChar c = true → c.toLower = c)
      (by decide +kernel) (toNat_lt_of_isDottedChar h) h
  exact isLow_of_ascii (toNat_lt_of_isDottedChar h) hlower

lemma IsTable.dotted {name : String} (h : IsTable name) :
    ∀ c ∈ name.toList, isDottedChar c = true :=
  List.all_eq_true.1 h.signs

lemma IsTable.low {name : String} (h : IsTable name) : lowerCase name = name :=
  (lowerCase_eq_self_iff name).2 fun c hc => isLow_of_isDottedChar (h.dotted c hc)

lemma IsTable.ne_nil {name : String} (h : IsTable name) : name.toList ≠ [] := by
  intro hnil
  have hlast := h.last
  rw [behindLastDot, hnil] at hlast
  exact hlast rfl

lemma low_number (n : Nat) : lowerCase (toString n) = toString n := by
  rw [lowerCase_eq_self_iff, Nat.toString_eq_repr, Nat.toList_repr]
  intro c hc
  refine isLow_of_isDottedChar ?_
  simp [isDottedChar, isNameChar, BoundValue.isDigit_toDigits n c hc]

lemma low_append {s t : String} (hs : lowerCase s = s) (ht : lowerCase t = t) :
    lowerCase (s ++ t) = s ++ t := by
  rw [lowerCase_eq_self_iff] at hs ht ⊢
  rw [String.toList_append]
  exact List.forall_mem_append.2 ⟨hs, ht⟩

lemma low_join {parts : List String} (h : ∀ s ∈ parts, lowerCase s = s) :
    lowerCase (String.join parts) = String.join parts := by
  rw [lowerCase_eq_self_iff, String.toList_join]
  intro c hc
  obtain ⟨s, hs, hc⟩ := List.mem_flatMap.1 hc
  exact (lowerCase_eq_self_iff s).1 (h s hs) c hc

lemma low_listing {parts : List String} (h : ∀ s ∈ parts, lowerCase s = s) :
    ∀ body ∈ listing? parts, lowerCase body = body := by
  have hcomma : lowerCase ", " = ", " := by decide +kernel
  have hjoined : lowerCase (", ".intercalate parts) = ", ".intercalate parts := by
    induction parts with
    | nil => rfl
    | cons s parts ih =>
      have hs := h s List.mem_cons_self
      cases parts with
      | nil => simpa using hs
      | cons t parts =>
        rw [String.intercalate_cons_cons]
        exact low_append (low_append hs hcomma) (ih fun x hx => h x (List.mem_cons_of_mem s hx))
  intro body hbody
  rw [listing?] at hbody
  split at hbody
  · cases hbody
  · cases hbody
    exact hjoined

lemma low_clauseText {keyword : String} (hk : lowerCase keyword = keyword) {body : Option String}
    (h : ∀ b ∈ body, lowerCase b = b) :
    lowerCase (clauseText keyword body) = clauseText keyword body := by
  have hspace : lowerCase " " = " " := by decide +kernel
  cases body with
  | none => rfl
  | some b => exact low_append (low_append (low_append hspace hk) hspace) (h b rfl)

section Whole

variable {q : Query} (h : q.WellFormed)
include h

lemma lowerCase_sql : lowerCase q.sql = q.sql := by
  have hwords : ∀ word ∈ ["select ", " from ", " join ", " on ", "where", "group by", "order by",
      "limit"], lowerCase word = word := by
    decide +kernel
  have hfirst := (h.names q.first List.mem_cons_self).low
  have hjoins : ∀ text ∈ q.joins.map joinText, lowerCase text = text := by
    intro text htext
    obtain ⟨j, hj, rfl⟩ := List.mem_map.1 htext
    have htable := (h.names j.table (List.mem_cons_of_mem _ (List.mem_map_of_mem hj))).low
    exact low_append (low_append (low_append (hwords " join " (by simp)) htable)
      (hwords " on " (by simp))) (h.conditions j hj).low
  have hitems : ∀ item ∈ q.groups ++ q.orders, lowerCase item = item :=
    fun item hitem => (h.items item hitem).1.low
  have hlimit : ∀ number ∈ q.limit.map toString, lowerCase number = number := by
    intro number hnumber
    obtain ⟨n, -, rfl⟩ := Option.map_eq_some_iff.1 hnumber
    exact low_number n
  have hhead := low_append (low_append (hwords "select " (by simp)) h.selected.low)
    (hwords " from " (by simp))
  have hwhere := low_clauseText (hwords "where" (by simp)) fun w hw => (h.filter w hw).low
  have hgroup := low_clauseText (hwords "group by" (by simp))
    (low_listing fun item hitem => hitems item (List.mem_append_left _ hitem))
  have horder := low_clauseText (hwords "order by" (by simp))
    (low_listing fun item hitem => hitems item (List.mem_append_right _ hitem))
  have hlast := low_clauseText (hwords "limit" (by simp)) hlimit
  exact low_append (low_append (low_append (low_append
    (low_append (low_append hhead hfirst) (low_join hjoins)) hwhere) hgroup) horder) hlast

end Whole

/-! ### Names behind a keyword -/

section Names

variable {keyword : String} {inWord : Bool} {u r : List Char}

lemma namesAfter_of_places (h : places (wordMark keyword) inWord u [] = 0) :
    namesAfter keyword u = [] :=
  readAll_of_places named?_of_not_wordMark h

/-- With at most `n + 1` keywords in all and `n` of them behind the first name, that name is the
first that is read. -/
lemma namesAfter_first {name : List Char} {n : Nat} (hne : name ≠ [])
    (hdotted : ∀ c ∈ name, isDottedChar c = true) (hr : Cut r)
    (hcount : places (wordMark keyword) inWord (u ++ (keyword.toList ++ ' ' :: (name ++ r))) [] ≤
      n + 1)
    (hrest : ∀ b, n ≤ places (wordMark keyword) b r []) :
    namesAfter keyword (u ++ (keyword.toList ++ ' ' :: (name ++ r))) =
        name :: namesAfter keyword r ∧
      ∃ b, places (wordMark keyword) b r [] ≤ n := by
  have hcut : keyword.toList ++ ' ' :: (name ++ r) = (keyword.toList ++ [' '] ++ name) ++ r := by
    simp
  have hdot : ∀ c ∈ r.head?, isDottedChar c = false := by
    intro c hc
    rw [hr c hc]
    decide
  have hread : named? keyword ((keyword.toList ++ [' '] ++ name) ++ r) = some (name, r) :=
    named?_append (by simp) (List.forall_mem_singleton.2 (by decide)) hne hdotted hdot
  rw [hcut] at hcount ⊢
  exact readAll_first named?_of_not_wordMark (by simp) hread hcount hrest

end Names

def joinsText (joins : List JoinClause) : List Char := joins.flatMap fun j => (joinText j).toList

lemma joinsText_cons (j : JoinClause) (joins : List JoinClause) (r : List Char) :
    joinsText (j :: joins) ++ r = ' ' :: ("join".toList ++ ' ' :: (j.table.toList ++
      (" on ".toList ++ j.condition.toList ++ (joinsText joins ++ r)))) := by
  simp [joinsText, joinText]

lemma cut_joinsText (joins : List JoinClause) {r : List Char} (hr : Cut r) :
    Cut (joinsText joins ++ r) := by
  cases joins with
  | nil => exact hr
  | cons j joins =>
    rw [joinsText_cons]
    simp [Cut]

lemma length_le_places_joins (joins : List JoinClause) (inWord : Bool) (r : List Char) :
    joins.length ≤ places (wordMark "join") inWord (joinsText joins ++ r) [] := by
  induction joins generalizing inWord with
  | nil => exact Nat.zero_le _
  | cons j joins ih =>
    have hcut : joinsText (j :: joins) ++ r = ' ' :: (("join".toList ++ ' ' :: (j.table.toList ++
        (" on ".toList ++ j.condition.toList))) ++ (joinsText joins ++ r)) := by
      rw [joinsText_cons]
      simp
    rw [hcut, places_cons, not_word_space, places_append, List.length_cons]
    have hone : 1 ≤ places (wordMark "join") false ("join".toList ++ ' ' :: (j.table.toList ++
        (" on ".toList ++ j.condition.toList))) (joinsText joins ++ r ++ []) := by
      refine one_le_places (by simp) ?_
      rw [List.append_assoc, List.cons_append]
      exact marks_wordMark "join" _
    have hrest := ih (endsInWord false ("join".toList ++ ' ' :: (j.table.toList ++
      (" on ".toList ++ j.condition.toList))))
    omega

/-- Join by join, as long as there are no more keywords than joins. -/
lemma namesAfter_joins {joins : List JoinClause}
    (hjoins : ∀ j ∈ joins, j.table.toList ≠ [] ∧ ∀ c ∈ j.table.toList, isDottedChar c = true)
    {inWord : Bool} {u r : List Char}
    (hcount : places (wordMark "join") inWord (u ++ (joinsText joins ++ r)) [] ≤ joins.length) :
    namesAfter "join" (u ++ (joinsText joins ++ r)) = joins.map fun j => j.table.toList := by
  induction joins generalizing inWord u with
  | nil => exact namesAfter_of_places (Nat.le_zero.1 hcount)
  | cons j joins ih =>
    obtain ⟨hne, hdotted⟩ := hjoins j List.mem_cons_self
    have hcut : u ++ (joinsText (j :: joins) ++ r) = (u ++ [' ']) ++ ("join".toList ++
        ' ' :: (j.table.toList ++
          (" on ".toList ++ j.condition.toList ++ (joinsText joins ++ r)))) := by
      rw [joinsText_cons]
      simp
    have hrest : ∀ b, joins.length ≤ places (wordMark "join") b
        (" on ".toList ++ j.condition.toList ++ (joinsText joins ++ r)) [] :=
      fun b => Nat.le_trans (length_le_places_joins joins _ r) places_le_append
    rw [hcut] at hcount ⊢
    obtain ⟨hfirst, b, hbehind⟩ := namesAfter_first hne hdotted (by simp [Cut]) hcount hrest
    rw [hfirst, ih (fun j hj => hjoins j (List.mem_cons_of_mem _ hj)) hbehind, List.map_cons]

/-! ### Names without their qualifiers -/

lemma lastSegment_eq (name : List Char) : lastSegment name = name.rtakeWhile (· ≠ '.') := by
  have hfree : ∀ c ∈ name.rtakeWhile (· ≠ '.'), (c == '.') = false := by
    intro c hc
    have hne := List.mem_rtakeWhile_imp hc
    simpa using hne
  have hsplit : name.rdropWhile (· ≠ '.') ++ name.rtakeWhile (· ≠ '.') = name :=
    List.rdropWhile_append_rtakeWhile
  rw [lastSegment]
  generalize hv : name.rtakeWhile (· ≠ '.') = v at hfree hsplit ⊢
  rcases List.eq_nil_or_concat (name.rdropWhile (· ≠ '.')) with hnil | ⟨u, c, hu⟩
  · rw [hnil, List.nil_append] at hsplit
    rw [← hsplit, splitWhere_of_free hfree]
    rfl
  · have hdot : (c == '.') = true := by
      have hlast := List.rdropWhile_last_not (· ≠ '.') name (by rw [hu]; simp)
      simp only [hu] at hlast
      simpa using hlast
    rw [hu, List.concat_eq_append, List.append_assoc, List.singleton_append] at hsplit
    rw [← hsplit, splitWhere_append_sep (p := fun d => d == '.') hdot, splitWhere_of_free hfree,
      List.getLast?_append_of_ne_nil _ (by simp)]
    rfl

/-! ### The whole query -/

/-- The text in front of the clauses. -/
def Query.opening (q : Query) : List Char :=
  "select".toList ++ ' ' :: (q.selected.toList ++ ' ' :: ("from".toList ++
    ' ' :: (q.first.toList ++ joinsText q.joins)))

def Query.whereText (q : Query) : List Char := (clauseText "where" q.filter).toList

def Query.groupText (q : Query) : List Char := (clauseText "group by" (listing? q.groups)).toList

def Query.orderText (q : Query) : List Char := (clauseText "order by" (listing? q.orders)).toList

def Query.limitText (q : Query) : List Char := (clauseText "limit" (q.limit.map toString)).toList

lemma toList_sql (q : Query) : q.sql.toList =
    q.opening ++ (q.whereText ++ (q.groupText ++ (q.orderText ++ q.limitText))) := by
  unfold Query.sql Query.opening Query.whereText Query.groupText Query.orderText Query.limitText
  simp [joinsText, List.flatMap_def, Function.comp_def]

section Whole

variable {q : Query} (h : q.WellFormed)
include h

lemma places_groupMark : places groupMark false (q.opening ++ q.whereText)
    (q.groupText ++ (q.orderText ++ q.limitText)) = 0 := by
  have hcount := h.keywords.groupBy
  rw [occurrences, toList_sql, ← List.append_assoc] at hcount
  exact places_front isPair_group.marks hcount

lemma places_orderMark : places orderMark false (q.opening ++ q.whereText ++ q.groupText)
    (q.orderText ++ q.limitText) = 0 := by
  have hcount := h.keywords.orderBy
  rw [occurrences, toList_sql, ← List.append_assoc, ← List.append_assoc] at hcount
  exact places_front isPair_order.marks hcount

lemma places_limitMark :
    places limitMark false (q.opening ++ q.whereText ++ q.groupText ++ q.orderText)
      q.limitText = 0 := by
  have hcount := h.keywords.limitWord
  have hcut : q.sql.toList = (q.opening ++ q.whereText ++ q.groupText ++ q.orderText) ++
      (q.limitText ++ []) := by
    rw [toList_sql]
    simp
  rw [occurrences, hcut] at hcount
  have hfront := places_front (marks_aloneMark "limit") hcount
  rwa [List.append_nil] at hfront

end Whole

/-! ### Where clauses end -/

section Closes

variable (q : Query)

lemma closes_limitText {stop : Mark} (hlimit : Marks stop "limit") : Closes stop q.limitText := by
  have hclose : Closes stop (q.limitText ++ []) := closes_clause hlimit closes_nil
  rwa [List.append_nil] at hclose

lemma closes_endsOrder : Closes endsOrder q.limitText := by
  rw [endsOrder_eq]
  exact closes_limitText q (marks_aloneMark "limit")

lemma closes_endsGroup : Closes endsGroup (q.orderText ++ q.limitText) := by
  rw [endsGroup_eq]
  exact closes_clause isPair_order.marks.or_left
    (closes_limitText q (marks_aloneMark "limit").or_right)

lemma closes_endsWhere : Closes endsWhere (q.groupText ++ (q.orderText ++ q.limitText)) := by
  rw [endsWhere_eq]
  exact closes_clause isPair_group.marks.or_left (closes_clause isPair_order.marks.or_left.or_right
    (closes_limitText q (marks_aloneMark "limit").or_right.or_right))

lemma cut_whereText :
    Cut (q.whereText ++ (q.groupText ++ (q.orderText ++ q.limitText))) := by
  have hlimit : Cut q.limitText := by
    have hcut : Cut (q.limitText ++ []) := cut_clause (by simp [Cut])
    rwa [List.append_nil] at hcut
  exact cut_clause (cut_clause (cut_clause hlimit))

end Closes

/-! ### What is read -/

section Read

variable {q : Query} (h : q.WellFormed)
include h

lemma filters_sql : filters q.sql = q.filter.toList := by
  have hbody : ∀ w ∈ q.filter, w.toList ≠ [] ∧ ∀ c ∈ w.toList.head?, isBlank c = false := by
    intro w hw
    have hpart := h.filter w hw
    exact ⟨by simpa using hpart.ne_empty, not_isBlank_head hpart.trimmed⟩
  have hcount := h.keywords.whereWord
  rw [occurrences, toList_sql] at hcount
  have hstop : places endsWhere false (q.opening ++ q.whereText)
      (q.groupText ++ (q.orderText ++ q.limitText)) = 0 := by
    have horder := (places_append_eq_zero_iff.1 (places_orderMark h)).1
    have hlimit := (places_append_eq_zero_iff.1 (places_limitMark h)).1
    exact places_endsWhere_eq_zero_iff.2 ⟨places_groupMark h, horder,
      (places_append_eq_zero_iff.1 hlimit).1⟩
  obtain ⟨tail, hread, htail⟩ :=
    body?_clause opens_where hbody hcount hstop (closes_endsWhere q)
  rw [filters, toList_sql, Query.whereText, hread]
  cases hfilter : q.filter with
  | none => rfl
  | some w =>
    have hpart := h.filter w hfilter
    have hne : w.toList ≠ [] := by simpa using hpart.ne_empty
    have htrim := trim_append hpart.trimmed hne (b := []) (by simp) htail
    rw [List.nil_append] at htrim
    simp [htrim, hpart.ne_empty]

lemma groupBy_sql : Clause.groupBy q.sql = q.groups := by
  have hcount := h.keywords.groupBy
  rw [occurrences, toList_sql, ← List.append_assoc] at hcount
  have hstop : places endsGroup false (q.opening ++ q.whereText ++ q.groupText)
      (q.orderText ++ q.limitText) = 0 :=
    places_endsGroup_eq_zero_iff.2 ⟨places_orderMark h,
      (places_append_eq_zero_iff.1 (places_limitMark h)).1⟩
  have hread := items_clause isPair_group.opens
    (fun item hitem => h.items item (List.mem_append_left _ hitem)) hcount hstop
    (closes_endsGroup q)
  rw [Clause.groupBy, toList_sql, ← List.append_assoc]
  exact hread

lemma orderBy_sql : Clause.orderBy q.sql = q.orders := by
  have hcount := h.keywords.orderBy
  rw [occurrences, toList_sql, ← List.append_assoc, ← List.append_assoc] at hcount
  have hstop : places endsOrder false (q.opening ++ q.whereText ++ q.groupText ++ q.orderText)
      q.limitText = 0 := by
    rw [endsOrder_eq]
    exact places_limitMark h
  have hread := items_clause isPair_order.opens
    (fun item hitem => h.items item (List.mem_append_right _ hitem)) hcount hstop
    (closes_endsOrder q)
  rw [Clause.orderBy, toList_sql, ← List.append_assoc, ← List.append_assoc]
  exact hread

lemma limit_sql : Clause.limit q.sql = q.limit := by
  have hcut : q.sql.toList =
      (q.opening ++ (q.whereText ++ (q.groupText ++ q.orderText))) ++ q.limitText := by
    rw [toList_sql]
    simp
  exact limit_of_clause hcut h.limit h.keywords.limitWord

lemma namesAfter_from : namesAfter "from" q.sql.toList = [q.first.toList] := by
  have htable := h.names q.first List.mem_cons_self
  have hcount := Nat.le_of_eq h.keywords.fromWord
  have hcut : q.sql.toList = ("select ".toList ++ q.selected.toList ++ [' ']) ++ ("from".toList ++
      ' ' :: (q.first.toList ++ (joinsText q.joins ++
        (q.whereText ++ (q.groupText ++ (q.orderText ++ q.limitText)))))) := by
    rw [toList_sql]
    unfold Query.opening
    simp
  rw [occurrences, hcut] at hcount
  obtain ⟨hfirst, b, hrest⟩ := namesAfter_first htable.ne_nil htable.dotted
    (cut_joinsText q.joins (cut_whereText q)) hcount fun _ => Nat.zero_le _
  rw [hcut, hfirst, namesAfter_of_places (Nat.le_zero.1 hrest)]

lemma namesAfter_join :
    namesAfter "join" q.sql.toList = q.joins.map fun j => j.table.toList := by
  have hjoins : ∀ j ∈ q.joins,
      j.table.toList ≠ [] ∧ ∀ c ∈ j.table.toList, isDottedChar c = true := by
    intro j hj
    have htable := h.names j.table (List.mem_cons_of_mem _ (List.mem_map_of_mem hj))
    exact ⟨htable.ne_nil, htable.dotted⟩
  have hcount := Nat.le_of_eq h.keywords.joinWord
  have hcut : q.sql.toList = ("select ".toList ++ q.selected.toList ++ " from ".toList ++
      q.first.toList) ++ (joinsText q.joins ++
        (q.whereText ++ (q.groupText ++ (q.orderText ++ q.limitText)))) := by
    rw [toList_sql]
    unfold Query.opening
    simp
  rw [occurrences, hcut] at hcount
  rw [hcut, namesAfter_joins hjoins hcount]

lemma joins_sql : Clause.joins q.sql = q.joins.map JoinClause.table := by
  rw [Clause.joins, namesAfter_join h, List.map_map]
  simp [Function.comp_def]

lemma tables_sql : Clause.tables q.sql = (q.names.map behindLastDot).eraseDups := by
  have hnames : namesAfter "from" q.sql.toList ++ namesAfter "join" q.sql.toList =
      q.names.map String.toList := by
    rw [namesAfter_from h, namesAfter_join h, Query.names, List.map_cons, List.map_map]
    rfl
  have hsegments : (q.names.map String.toList).map (fun n => String.ofList (lastSegment n)) =
      q.names.map behindLastDot := by
    rw [List.map_map]
    refine List.map_congr_left fun name _ => ?_
    rw [Function.comp_apply, lastSegment_eq, behindLastDot]
  rw [Clause.tables, hnames, hsegments]

end Read

/-- **What a query was assembled from is read back**, whatever the schema. -/
theorem outline_of_assembled {q : Query} (h : q.WellFormed) (schema : Option Schema) :
    let outline := Outline.ofSql q.sql schema
    outline.joins = q.joins.map JoinClause.table ∧
      outline.tables = (q.names.map behindLastDot).eraseDups ∧
      outline.filters = q.filter.toList ∧ outline.groupBy = q.groups ∧
      outline.orderBy = q.orders ∧ outline.limit = q.limit := by
  unfold Outline.ofSql
  dsimp only
  rw [lowerCase_sql h]
  exact ⟨joins_sql h, tables_sql h, filters_sql h, groupBy_sql h, orderBy_sql h, limit_sql h⟩

/-- A report over three tables, two of them of one name, with all of its clauses. -/
def report : Query where
  selected := "name, sum(due)"
  first := "shop.users"
  joins := [⟨"bills", "bills.of = id"⟩, ⟨"old.users", "was = id"⟩]
  filter := some "due > 0\n and paid"
  groups := ["name", "lower(id)"]
  orders := ["sum(due) desc", "name"]
  limit := some 20

/-- All parts of a report are read back. -/
theorem outline_of_assembled_report :
    report.WellFormed ∧
      let outline := Outline.ofSql report.sql none
      outline.joins = ["bills", "old.users"] ∧ outline.tables = ["users", "bills"] ∧
        outline.filters = ["due > 0\n and paid"] ∧ outline.groupBy = ["name", "lower(id)"] ∧
        outline.orderBy = ["sum(due) desc", "name"] ∧ outline.limit = some 20 := by
  have h : report.WellFormed := by decide +kernel
  have htables : (report.names.map behindLastDot).eraseDups = ["users", "bills"] := by
    decide +kernel
  obtain ⟨hj, ht, hf, hg, ho, hl⟩ := outline_of_assembled h none
  exact ⟨h, hj, ht.trans htables, hf, hg, ho, hl⟩

end QueryGuard.Proofs.AssembledQuery
