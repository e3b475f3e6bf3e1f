import QueryGuard.Outline.IndexHint
import QueryGuard.Proofs.AssembledQuery
import QueryGuard.Proofs.SpacedParts

/-!
Hints for every column that a join, a filter or an order begins with.

A query is a list of parts with any blanks between them. A joined table may be followed by another
name, with or without AS, and this name may be spelled like the keyword ON or AS itself; it is still
the name that is passed over, for what follows ON has a dot in it and no keyword does.
-/

namespace QueryGuard.Proofs.HintedColumns

open Text TextRuns LowerParts Places ClauseNames ClauseBodies SpacedParts Clause IndexHint
open AssembledQuery (isLow_of_isDottedChar)

/-! ### Queries -/

structure Column where
  table : String
  name : String

def Column.text (c : Column) : String := c.table ++ "." ++ c.name

/-- The other name of a joined table, if it has one. -/
inductive Naming where
  | plain
  | bare (name : String)
  | withAs (name : String)

namespace Naming

def name? : Naming → Option String
  | plain => none
  | bare name => some name
  | withAs name => some name

def parts : Naming → List String
  | plain => []
  | bare name => [name]
  | withAs name => ["as", name]

end Naming

structure Join where
  table : String
  naming : Naming := .plain
  column : Column
  rest : Option String := none

def Join.parts (j : Join) : List String :=
  ["join", j.table] ++ j.naming.parts ++ ["on", j.column.text] ++ j.rest.toList

/-- What stands behind the keywords of a clause: a column and anything. -/
structure Keyed where
  column : Column
  rest : Option String := none

def keyedParts (words : List String) : Option Keyed → List String
  | none => []
  | some k => words ++ [k.column.text] ++ k.rest.toList

structure Query where
  selected : Option String := none
  first : String
  joins : List Join := []
  filter : Option Keyed := none
  order : Option Keyed := none

namespace Query

def parts (q : Query) : List String :=
  "select" :: q.selected.toList ++ ["from", q.first] ++ q.joins.flatMap Join.parts ++
    keyedParts ["where"] q.filter ++ keyedParts ["order", "by"] q.order

def columns (q : Query) : List Column :=
  q.joins.map Join.column ++ (q.filter.toList ++ q.order.toList).map Keyed.column

def hints (q : Query) : List String :=
  q.joins.map (fun j => "Consider index on " ++ j.column.text ++ ".") ++
    q.filter.toList.map (fun k => "Consider index on " ++ k.column.text ++ ".") ++
    q.order.toList.map fun k => "Consider index on " ++ k.column.text ++ " for ORDER BY."

end Query

structure Column.IsNamed (c : Column) : Prop where
  table : IsMadeOf isNameChar c.table
  name : IsMadeOf isNameChar c.name

instance (c : Column) : Decidable c.IsNamed :=
  decidable_of_iff (IsMadeOf isNameChar c.table ∧ IsMadeOf isNameChar c.name)
    ⟨fun ⟨ht, hn⟩ => ⟨ht, hn⟩, fun ⟨ht, hn⟩ => ⟨ht, hn⟩⟩

structure Query.WellFormed (q : Query) : Prop where
  tables : ∀ t ∈ q.first :: q.joins.map Join.table, IsMadeOf isDottedChar t
  namings : ∀ j ∈ q.joins, ∀ name ∈ j.naming.name?, IsMadeOf isNameChar name
  columns : ∀ c ∈ q.columns, c.IsNamed

/-- Each keyword occurs as often as the query puts it somewhere, and so nowhere else. -/
structure KeywordsAsShown (q : Query) (text : String) : Prop where
  joinWord : occurrences (wordMark "join") text = q.joins.length
  whereWord : occurrences (wordMark "where") text = q.filter.toList.length
  orderBy : occurrences orderMark text = q.order.toList.length

instance (q : Query) : Decidable q.WellFormed :=
  decidable_of_iff ((∀ t ∈ q.first :: q.joins.map Join.table, IsMadeOf isDottedChar t) ∧
      (∀ j ∈ q.joins, ∀ name ∈ j.naming.name?, IsMadeOf isNameChar name) ∧
      ∀ c ∈ q.columns, c.IsNamed)
    ⟨fun ⟨ht, hn, hc⟩ => ⟨ht, hn, hc⟩, fun ⟨ht, hn, hc⟩ => ⟨ht, hn, hc⟩⟩

variable {p word : String} {ps : List String} {t r : List Char} {c : Column}

/-! ### Columns -/

def Column.pair (c : Column) : List Char × List Char := (c.table.toList, c.name.toList)

lemma toList_text (c : Column) : c.text.toList = c.table.toList ++ '.' :: c.name.toList := by
  simp [Column.text]

/-- A column has a dot and so is no keyword. -/
lemma text_ne_of_free (hword : '.' ∉ word.toList) : c.text ≠ word := by
  rintro rfl
  exact hword (by simp [toList_text])

lemma message_pair (purpose : String) (c : Column) :
    message purpose c.pair = "Consider index on " ++ c.text ++ purpose := by
  unfold message Column.pair Column.text
  rw [String.ofList_toList, String.ofList_toList]
  generalize "Consider index on " = head
  simp only [String.append_assoc]

namespace Column.IsNamed

variable (hc : c.IsNamed)
include hc

lemma dotted : IsMadeOf isDottedChar c.text := by
  constructor
  · simp [toList_text]
  · intro d hd
    rw [toList_text, List.mem_append, List.mem_cons] at hd
    rcases hd with hd | rfl | hd
    · exact hc.table.dotted.signs d hd
    · decide
    · exact hc.name.dotted.signs d hd

lemma qualified?_append (hr : Loose r) : qualified? (c.text.toList ++ r) = some (c.pair, r) := by
  have htable : run? isNameChar (c.table.toList ++ '.' :: (c.name.toList ++ r)) =
      some (c.table.toList, '.' :: (c.name.toList ++ r)) :=
    run?_append hc.table.ne_nil hc.table.signs fun d hd => by
      obtain rfl : d = '.' := by simpa using hd.symm
      decide
  rw [toList_text, List.append_assoc, List.cons_append, qualified?, htable]
  simp only [Option.bind_eq_bind, Option.bind_some, run?_name hc.name hr]
  rfl

/-! ### Behind ON -/

lemma on?_append (h : Behind ["on", c.text] t) (hr : Loose r) :
    on? (t ++ r) = some (c.pair, r) := by
  obtain ⟨t', ht', hblanks⟩ := blanks?_behind (r := r) h (by decide +kernel)
  obtain ⟨t'', ht'', hblanks'⟩ := blanks?_behind (r := r) ht' hc.dotted
  rw [behind_nil_iff.1 ht'', List.nil_append] at hblanks'
  rw [on?, hblanks, Option.bind_some, after?_self, hblanks', Option.bind_some,
    hc.qualified?_append hr]

end Column.IsNamed

lemma on?_eq_none (h : Behind (p :: ps) t) (hp : IsMadeOf isDottedChar p) (hne : p ≠ "on")
    (hr : Loose r) : on? (t ++ r) = none := by
  obtain ⟨t', ht', hblanks⟩ := blanks?_behind (r := r) h hp
  rw [on?, hblanks, Option.bind_some, after?_of_ne (by decide +kernel) hp hne
    (loose_behind ht' hr)]
  rfl

/-! ### A join -/

section Aliased

variable {next : String}

lemma aliasedOn?_append (hp : IsMadeOf isNameChar p) (hc : c.IsNamed)
    (h : Behind [p, "on", c.text] t) (hr : Loose r) : aliasedOn? (t ++ r) = some (c.pair, r) := by
  obtain ⟨t', ht', hblanks⟩ := blanks?_behind (r := r) h hp.dotted
  rw [aliasedOn?, hblanks, Option.bind_some, run?_name hp (loose_behind ht' hr)]
  exact hc.on?_append ht' hr

lemma aliasedOn?_eq_none (hp : IsMadeOf isNameChar p) (hnext : IsMadeOf isDottedChar next)
    (hne : next ≠ "on") (h : Behind (p :: next :: ps) t) (hr : Loose r) :
    aliasedOn? (t ++ r) = none := by
  obtain ⟨t', ht', hblanks⟩ := blanks?_behind (r := r) h hp.dotted
  rw [aliasedOn?, hblanks, Option.bind_some, run?_name hp (loose_behind ht' hr)]
  exact on?_eq_none ht' hnext hne hr

lemma asAliasedOn?_as (h : Behind ("as" :: ps) t) :
    ∃ t', Behind ps t' ∧ asAliasedOn? (t ++ r) = aliasedOn? (t' ++ r) := by
  obtain ⟨t', ht', hblanks⟩ := blanks?_behind (r := r) h (by decide +kernel)
  exact ⟨t', ht', by rw [asAliasedOn?, hblanks, Option.bind_some, after?_self, aliasedOn?]⟩

lemma asAliasedOn?_eq_none (hp : IsMadeOf isDottedChar p) (hne : p ≠ "as")
    (h : Behind (p :: ps) t) (hr : Loose r) : asAliasedOn? (t ++ r) = none := by
  obtain ⟨t', ht', hblanks⟩ := blanks?_behind (r := r) h hp
  rw [asAliasedOn?, hblanks, Option.bind_some, after?_of_ne (by decide +kernel) hp hne
    (loose_behind ht' hr)]
  rfl

end Aliased

/-- Whatever other name a table has, the column behind ON is read. Taking the AS or the ON of a
shorter form for that name leads to no column. -/
lemma Column.IsNamed.on?_of_naming {n : Naming} (hc : c.IsNamed)
    (hn : ∀ name ∈ n.name?, IsMadeOf isNameChar name)
    (h : Behind (n.parts ++ ["on", c.text]) t) (hr : Loose r) :
    (asAliasedOn? (t ++ r) <|> aliasedOn? (t ++ r) <|> on? (t ++ r)) = some (c.pair, r) := by
  have hon : IsMadeOf isNameChar "on" := by decide +kernel
  have hne : c.text ≠ "on" := text_ne_of_free (by decide +kernel)
  cases n with
  | plain =>
    have hno := asAliasedOn?_eq_none hon.dotted (by decide +kernel) h hr
    have hnone := aliasedOn?_eq_none hon hc.dotted hne h hr
    rw [hno, hnone, hc.on?_append h hr]
    rfl
  | bare name =>
    have hname := hn name rfl
    have hno : asAliasedOn? (t ++ r) = none := by
      by_cases has : name = "as"
      · subst has
        obtain ⟨t', ht', hrest⟩ := asAliasedOn?_as (r := r) h
        rw [hrest, aliasedOn?_eq_none hon hc.dotted hne ht' hr]
      · exact asAliasedOn?_eq_none hname.dotted has h hr
    rw [hno, aliasedOn?_append hname hc h hr]
    rfl
  | withAs name =>
    obtain ⟨t', ht', hrest⟩ := asAliasedOn?_as (r := r) h
    rw [hrest, aliasedOn?_append (hn name rfl) hc ht' hr]
    rfl

structure Join.WellFormed (j : Join) : Prop where
  table : IsMadeOf isDottedChar j.table
  naming : ∀ name ∈ j.naming.name?, IsMadeOf isNameChar name
  column : j.column.IsNamed

lemma joinOn?_append {j : Join} (hj : j.WellFormed)
    (h : Spaced (["join", j.table] ++ j.naming.parts ++ ["on", j.column.text]) t) (hr : Loose r) :
    joinOn? (t ++ r) = some (j.column.pair, r) := by
  obtain ⟨v, hv, rfl⟩ := spaced_cons_iff.1 h
  obtain ⟨g, w, hg, hw, rfl⟩ := behind_cons_iff.1 hv
  have hloose := loose_behind hw hr
  have hnamed : named? "join" ("join".toList ++ g ++ j.table.toList ++ (w ++ r)) =
      some (j.table.toList, w ++ r) :=
    named?_append hg.ne_nil hg.blank hj.table.ne_nil hj.table.signs fun d hd =>
      not_isDottedChar_of_isBlank (hloose d hd)
  simp only [List.append_assoc] at hnamed ⊢
  rw [joinOn?, hnamed]
  exact hj.column.on?_of_naming hj.naming hw hr

lemma joinOn?_of_not_wordMark (b : Bool) (s : List Char) (h : wordMark "join" b s = false) :
    joinOn? s = none := by
  rw [joinOn?, named?_of_not_wordMark b s h]
  rfl

lemma length_le_count_join (joins : List Join) (tail : List String) :
    joins.length ≤ (joins.flatMap Join.parts ++ tail).count "join" := by
  induction joins with
  | nil => exact Nat.zero_le _
  | cons j joins ih =>
    rw [List.flatMap_cons, List.append_assoc, List.count_append, List.length_cons]
    have hone : 1 ≤ j.parts.count "join" := List.one_le_count_iff.2 (by simp [Join.parts])
    omega

/-- Join by join, as long as there are no more keywords than joins. -/
lemma readAll_joinOn? {joins : List Join} (hjoins : ∀ j ∈ joins, j.WellFormed) {tail : List String}
    {inWord : Bool} {u : List Char} (h : Behind (joins.flatMap Join.parts ++ tail) t)
    (hcount : places (wordMark "join") inWord (u ++ t) [] ≤ joins.length) :
    readAll joinOn? (u ++ t) = joins.map fun j => j.column.pair := by
  induction joins generalizing inWord u t with
  | nil => exact readAll_of_places joinOn?_of_not_wordMark (Nat.le_zero.1 hcount)
  | cons j joins ih =>
    have hparts : (j :: joins).flatMap Join.parts ++ tail =
        ("join" :: ([j.table] ++ j.naming.parts ++ ["on", j.column.text])) ++
          (j.rest.toList ++ (joins.flatMap Join.parts ++ tail)) := by
      simp [Join.parts]
    rw [hparts] at h
    obtain ⟨_, _, hjoin, hbehind, rfl⟩ := behind_append_iff.1 h
    obtain ⟨g, x, -, hx, rfl⟩ := behind_cons_iff_spaced.1 hjoin
    have hread := joinOn?_append (hjoins j List.mem_cons_self) hx (loose_of_behind hbehind)
    obtain ⟨z, y, -, hy, rfl⟩ := behind_append_iff.1 hbehind
    have hcut : u ++ (g ++ x ++ (z ++ y)) = (u ++ g) ++ (x ++ (z ++ y)) := by
      simp only [List.append_assoc]
    have hrest : ∀ b, joins.length ≤ places (wordMark "join") b (z ++ y) [] := fun b =>
      calc joins.length
        _ ≤ (joins.flatMap Join.parts ++ tail).count "join" := length_le_count_join joins tail
        _ ≤ places (wordMark "join") (endsInWord b z) y [] :=
          count_le_places (by decide +kernel) hy _ _
        _ ≤ places (wordMark "join") b (z ++ y) [] := places_le_append
    rw [hcut] at hcount ⊢
    have hne : x ≠ [] := by
      obtain ⟨_, _, rfl⟩ := spaced_cons_iff.1 hx
      simp
    obtain ⟨hfirst, b, hbehind⟩ := readAll_first joinOn?_of_not_wordMark hne hread hcount hrest
    rw [hfirst, ih (fun j hj => hjoins j (List.mem_cons_of_mem _ hj)) hy hbehind, List.map_cons]

/-! ### A clause -/

section Keyed

variable {words : List String} {start? : List Char → Option (List Char)} {mark : Mark}
  {tail : List String} {inWord : Bool} {u : List Char}

/-- The column that a clause begins with is read, and nothing else if there are no more keywords. -/
lemma readAll_keyed (hstart : ∀ s r, start? s = some r ↔ OpensWith (p :: words) s r)
    (hmark : ∀ b s, mark b s = false → start? s = none) {k : Option Keyed}
    (hk : ∀ keyed ∈ k, keyed.column.IsNamed) (h : Behind (keyedParts (p :: words) k ++ tail) t)
    (hcount : places mark inWord (u ++ t) [] ≤ k.toList.length) :
    readAll (fun s => (start? s).bind qualified?) (u ++ t) =
      k.toList.map fun keyed => keyed.column.pair := by
  have hnone : ∀ b s, mark b s = false → (start? s).bind qualified? = none := fun b s hb => by
    rw [hmark b s hb]
    rfl
  cases k with
  | none => exact readAll_of_places hnone (Nat.le_zero.1 hcount)
  | some k =>
    have hnamed := hk k rfl
    rw [keyedParts, List.append_assoc, List.append_assoc] at h
    obtain ⟨_, _, hwords, hcolumn, rfl⟩ := behind_append_iff.1 h
    obtain ⟨g, x, -, hx, rfl⟩ := behind_cons_iff_spaced.1 hwords
    obtain ⟨g', y, hg', hy, rfl⟩ := behind_cons_iff.1 hcolumn
    have hopen : start? (x ++ (g' ++ (k.column.text.toList ++ y))) =
        some (k.column.text.toList ++ y) :=
      (hstart _ _).2 ⟨x, g', hx, hg', hnamed.dotted.flush y, rfl⟩
    have hread : (start? ((x ++ g' ++ k.column.text.toList) ++ y)).bind qualified? =
        some (k.column.pair, y) := by
      simp only [List.append_assoc]
      rw [hopen, Option.bind_some, hnamed.qualified?_append (loose_of_behind hy)]
    have hcut : u ++ (g ++ x ++ (g' ++ (k.column.text.toList ++ y))) =
        (u ++ g) ++ ((x ++ g' ++ k.column.text.toList) ++ y) := by
      simp only [List.append_assoc]
    rw [hcut] at hcount ⊢
    obtain ⟨hfirst, b, hbehind⟩ := readAll_first hnone (by simp [hg'.ne_nil]) hread hcount
      fun b => Nat.zero_le _
    rw [hfirst, readAll_of_places hnone (Nat.le_zero.1 hbehind)]
    rfl

end Keyed

/-! ### A whole query -/

section Whole

variable {q : Query} {s : List Char}

lemma Query.WellFormed.join (hq : q.WellFormed) {j : Join} (hj : j ∈ q.joins) : j.WellFormed where
  table := hq.tables j.table (List.mem_cons_of_mem _ (List.mem_map_of_mem hj))
  naming := hq.namings j hj
  column := hq.columns j.column (List.mem_append_left _ (List.mem_map_of_mem hj))

lemma Query.WellFormed.keyed (hq : q.WellFormed) {k : Keyed}
    (hk : k ∈ q.filter.toList ++ q.order.toList) : k.column.IsNamed :=
  hq.columns k.column (List.mem_append_right _ (List.mem_map_of_mem hk))

lemma orderBy?_of_not_mark (b : Bool) (s : List Char) (h : orderMark b s = false) :
    (Clause.orderBy? s).bind blanks? = none := by
  have hnone : Clause.orderBy? s = none := by
    rw [← Option.isNone_iff_eq_none, ← Option.isSome_eq_false_iff, ← h]
    exact isSome_pair? "order" "by" s
  rw [hnone]
  rfl

/-- The hints are those for the columns, in the order in which these are read. -/
lemma hints_of_spaced (hq : q.WellFormed) (h : Spaced q.parts s)
    (hjoin : places (wordMark "join") false s [] = q.joins.length)
    (hwhere : places (wordMark "where") false s [] = q.filter.toList.length)
    (horder : places orderMark false s [] = q.order.toList.length) :
    (readAll joinOn? s).map (message ".") ++ (readAll where? s).map (message ".") ++
      (readAll IndexHint.orderBy? s).map (message " for ORDER BY.") = q.hints := by
  have hjoins : readAll joinOn? s = q.joins.map fun j => j.column.pair := by
    rw [Query.parts, List.append_assoc, List.append_assoc] at h
    obtain ⟨u, t, ht, rfl⟩ := h.exists_behind (by simp)
    exact readAll_joinOn? (fun j hj => hq.join hj) ht hjoin.le
  have hfilter : readAll where? s = q.filter.toList.map fun k => k.column.pair := by
    rw [Query.parts, List.append_assoc] at h
    obtain ⟨u, t, ht, rfl⟩ := h.exists_behind (by simp)
    exact readAll_keyed (fun _ _ => after?_eq_some_iff) (fun _ _ => after?_eq_none)
      (fun k hk => hq.keyed (List.mem_append_left _ (Option.mem_toList.2 hk))) ht hwhere.le
  have horder' : readAll IndexHint.orderBy? s = q.order.toList.map fun k => k.column.pair := by
    rw [Query.parts, ← List.append_nil (keyedParts ["order", "by"] q.order)] at h
    obtain ⟨u, t, ht, rfl⟩ := h.exists_behind (by simp)
    exact readAll_keyed
      (fun _ _ => pair?_blanks?_eq_some_iff (by decide +kernel) (by decide +kernel))
      orderBy?_of_not_mark
      (fun k hk => hq.keyed (List.mem_append_right _ (Option.mem_toList.2 hk))) ht horder.le
  rw [hjoins, hfilter, horder', Query.hints]
  simp only [List.map_map, Function.comp_def, message_pair]

end Whole

/-! ### Letter case -/

def Keyed.lower (k : Keyed) : Keyed := { k with rest := k.rest.map lowerCase }

def Join.lower (j : Join) : Join := { j with rest := j.rest.map lowerCase }

/-- The query with what may be any text in lower case. -/
def Query.lower (q : Query) : Query where
  selected := q.selected.map lowerCase
  first := q.first
  joins := q.joins.map Join.lower
  filter := q.filter.map Keyed.lower
  order := q.order.map Keyed.lower

section LetterCase

variable {q : Query}

lemma low_name (h : IsMadeOf isDottedChar p) : lowerCase p = p :=
  (lowerCase_eq_self_iff p).2 fun d hd => isLow_of_isDottedChar (h.signs d hd)

lemma Join.WellFormed.lower_parts {j : Join} (h : j.WellFormed) :
    j.parts.map lowerCase = j.lower.parts := by
  have hjoin : lowerCase "join" = "join" := by decide +kernel
  have hon : lowerCase "on" = "on" := by decide +kernel
  have hnaming : j.naming.parts.map lowerCase = j.naming.parts := by
    have has : lowerCase "as" = "as" := by decide +kernel
    have hname := h.naming
    cases hn : j.naming with
    | plain => rfl
    | bare name => simp [Naming.parts, low_name (hname name (by rw [hn]; rfl)).dotted]
    | withAs name => simp [Naming.parts, has, low_name (hname name (by rw [hn]; rfl)).dotted]
  simp only [Join.parts, Join.lower, List.map_append, List.map_cons, List.map_nil,
    Option.toList_map, hjoin, hon, hnaming, low_name h.table, low_name h.column.dotted]

lemma lower_keyedParts (words : List String) (hwords : words.map lowerCase = words)
    {k : Option Keyed} (hk : ∀ keyed ∈ k, keyed.column.IsNamed) :
    (keyedParts words k).map lowerCase = keyedParts words (k.map Keyed.lower) := by
  cases k with
  | none => rfl
  | some k =>
    simp only [keyedParts, Keyed.lower, Option.map_some, List.map_append, List.map_cons,
      List.map_nil, Option.toList_map, hwords, low_name (hk k rfl).dotted]

lemma Query.WellFormed.lower_parts (hq : q.WellFormed) :
    q.parts.map lowerCase = q.lower.parts := by
  have hjoins : (q.joins.flatMap Join.parts).map lowerCase =
      (q.joins.map Join.lower).flatMap Join.parts := by
    rw [List.map_flatMap, List.flatMap_map]
    exact List.flatMap_congr fun j hj => (hq.join hj).lower_parts
  have hfilter := lower_keyedParts ["where"] (by decide +kernel)
    fun k hk => hq.keyed (List.mem_append_left _ (Option.mem_toList.2 hk))
  have horder := lower_keyedParts ["order", "by"] (by decide +kernel)
    fun k hk => hq.keyed (List.mem_append_right _ (Option.mem_toList.2 hk))
  have hselect : lowerCase "select" = "select" := by decide +kernel
  have hfrom : lowerCase "from" = "from" := by decide +kernel
  have hfirst : lowerCase q.first = q.first := low_name (hq.tables q.first List.mem_cons_self)
  simp only [Query.parts, Query.lower, List.map_append, List.map_cons, List.map_nil,
    Option.toList_map, hselect, hfrom, hfirst, hjoins, hfilter, horder]

lemma lower_columns (q : Query) : q.lower.columns = q.columns := by
  simp [Query.columns, Query.lower, Join.lower, Keyed.lower, Option.toList_map, Function.comp_def]

lemma lower_hints (q : Query) : q.lower.hints = q.hints := by
  simp [Query.hints, Query.lower, Join.lower, Keyed.lower, Option.toList_map, Function.comp_def]

lemma Query.WellFormed.lower (hq : q.WellFormed) : q.lower.WellFormed where
  tables := by simpa [Query.lower, Join.lower, Function.comp_def] using hq.tables
  namings := by simpa [Query.lower, Join.lower] using hq.namings
  columns := by
    rw [lower_columns]
    exact hq.columns

end LetterCase

/-- **Every column that a part begins with is hinted at**, the joins first, then the filter and the
order, each hint once. The letters A to Z of the query may be in either case, and its keywords are
counted in lower case. -/
theorem suggest_eq_hints {q : Query} {text sql : String} (hq : q.WellFormed)
    (htext : Spaced q.parts text.toList) (hkeywords : KeywordsAsShown q (lowerCase text))
    (hcase : sql.toList.map Char.toLower = text.toList.map Char.toLower) :
    suggest sql = q.hints.eraseDups := by
  have hlower : lower sql.toList = lower text.toList := by
    rw [← lower_map_toLower, hcase, lower_map_toLower]
  obtain ⟨hjoin, hwhere, horder⟩ := hkeywords
  have hspaced : Spaced q.lower.parts (lower text.toList) := by
    rw [← hq.lower_parts]
    exact htext.lower
  simp only [occurrences, toList_lowerCase] at hjoin hwhere horder
  have hhints := hints_of_spaced hq.lower hspaced (by simpa [Query.lower] using hjoin)
    (by simpa [Query.lower, Option.toList_map] using hwhere)
    (by simpa [Query.lower, Option.toList_map] using horder)
  rw [suggest, hlower, hhints, lower_hints]

/-- Two joined tables with the other names `on` and `as`; the first column comes up again. -/
def shipped : Query where
  selected := some "count(*), Max(o.total)"
  first := "shop.orders"
  joins := [
    { table := "customers", naming := .bare "on", column := ⟨"on", "id"⟩,
      rest := some "= o.customer" },
    { table := "items", naming := .withAs "as", column := ⟨"as", "order_id"⟩ }]
  filter := some { column := ⟨"on", "id"⟩, rest := some "> 5" }
  order := some { column := ⟨"o", "total"⟩, rest := some "desc" }

def shippedText : String :=
  String.ofList ([' ', '\t'].intercalate (shipped.parts.map String.toList))

def shippedSql : String :=
  "Select \tcount(*), MAX(o.total) \tFROM \tShop.Orders \tJOIN \tcustomers \tON \tOn \ton.Id" ++
    " \t= o.customer \tjoin \tItems \tAS \tAs \tON \tas.order_id" ++
    " \tWhere \ton.id \t> 5 \tORDER \tby \to.total \tDESC"

theorem suggest_shippedSql :
    shipped.WellFormed ∧ Spaced shipped.parts shippedText.toList ∧
    KeywordsAsShown shipped (lowerCase shippedText) ∧
    shippedSql.toList.map Char.toLower = shippedText.toList.map Char.toLower ∧
    suggest shippedSql = ["Consider index on on.id.", "Consider index on as.order_id.",
      "Consider index on o.total for ORDER BY."] := by
  have hq : shipped.WellFormed := by decide +kernel
  have hlaid : shippedText.toList = [' ', '\t'].intercalate (shipped.parts.map String.toList) :=
    String.toList_ofList
  have htext : Spaced shipped.parts shippedText.toList := by
    rw [hlaid]
    exact spaced_intercalate (by decide +kernel) (by decide +kernel)
  have hkeywords : KeywordsAsShown shipped (lowerCase shippedText) := by
    constructor <;> rw [occurrences, toList_lowerCase, hlaid] <;> decide +kernel
  have hcase : shippedSql.toList.map Char.toLower = shippedText.toList.map Char.toLower := by
    rw [hlaid]
    decide +kernel
  refine ⟨hq, htext, hkeywords, hcase, ?_⟩
  rw [suggest_eq_hints hq htext hkeywords hcase]
  decide +kernel

end QueryGuard.Proofs.HintedColumns
