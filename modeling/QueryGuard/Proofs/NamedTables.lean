import QueryGuard.Outline.Basic
import QueryGuard.Proofs.ClauseNames
import QueryGuard.Proofs.FirstAppearance
import QueryGuard.Proofs.JoinWays

/-!
The ways between the tables that a query names.

A text is brought to lower case before its tables are read, while the graph knows the tables as the
schema spells them. So of the tables that a query joins those are found in the graph whose names
have no capital letter; between two of them the way that is given is a shortest one, and a table
with a capital letter in its name has no way to any other, whatever the foreign keys say.
-/

namespace QueryGuard.Proofs.NamedTables

open Text TextRuns LowerImage StatementWords StatementHead ClauseNames SchemaGraph
open Neighbors ShortestWay JoinWays FirstAppearance

/-! ### Queries over joined tables -/

/-- A table that is joined, and the condition it is joined on. -/
structure JoinClause where
  table : String
  condition : String

def JoinClause.text (j : JoinClause) : String := " JOIN " ++ j.table ++ " ON " ++ j.condition

structure JoinQuery where
  columns : String
  first : String
  joins : List JoinClause

def JoinQuery.names (q : JoinQuery) : List String := q.first :: q.joins.map JoinClause.table

def JoinQuery.sql (q : JoinQuery) : String :=
  "SELECT " ++ q.columns ++ " FROM " ++ q.first ++ String.join (q.joins.map JoinClause.text)

def isNameSign (c : Char) : Bool := c.isAlphanum || c == '_'

def IsName (name : String) : Prop := name ≠ "" ∧ name.toList.all isNameSign = true

/-- The words that announce a table. -/
def keywords : List String := ["from", "join"]

/-- Neither keyword occurs in the part, in any letter case. -/
def Free (part : String) : Prop :=
  ∀ keyword ∈ keywords, ¬keyword.toList <:+: part.toList.map Char.toLower

instance (name : String) : Decidable (IsName name) := inferInstanceAs (Decidable (_ ∧ _))

instance (part : String) : Decidable (Free part) := inferInstanceAs (Decidable (∀ _ ∈ _, _))

/-- The tables are told apart by their names, and the keywords occur in none of the parts. -/
structure JoinQuery.WellFormed (q : JoinQuery) : Prop where
  isName : ∀ name ∈ q.names, IsName name
  nodup : q.names.Nodup
  free : ∀ part ∈ q.columns :: q.names ++ q.joins.map JoinClause.condition, Free part

instance (q : JoinQuery) : Decidable q.WellFormed :=
  decidable_of_iff ((∀ name ∈ q.names, IsName name) ∧ q.names.Nodup ∧
    ∀ part ∈ q.columns :: q.names ++ q.joins.map JoinClause.condition, Free part)
    ⟨fun ⟨hname, hnodup, hfree⟩ => ⟨hname, hnodup, hfree⟩, fun ⟨hname, hnodup, hfree⟩ =>
      ⟨hname, hnodup, hfree⟩⟩

/-! ### Lower case of the parts -/

lemma isHead {keyword : String} (h : keyword ∈ keywords) : IsHead keyword := by
  have hall : ∀ keyword ∈ keywords,
      IsKeyword keyword.toList ∧ keyword.toList.getLast? ≠ some 'i' := by
    decide +kernel
  exact ⟨(hall keyword h).1, (hall keyword h).2⟩

/-- Lower case makes no keyword, in whatever script the part is written. -/
lemma Free.lowered {part : String} (h : Free part) {t : List Char} (ht : Lowered part.toList t)
    {keyword : String} (hk : keyword ∈ keywords) : ¬keyword.toList <:+: t := by
  have hkelvin : ∀ keyword ∈ keywords, 'k' ∉ keyword.toList := by decide
  rw [infix_lowered_iff ht (isHead hk).ascii (isHead hk).last (hkelvin keyword hk)]
  exact h keyword hk

lemma not_word_space : isWordChar ' ' = false := not_word_of_isSpace ' ' isSpace_space

section Names

variable {name : String} (h : IsName name)
include h

lemma IsName.ascii : Ascii name.toList := by
  intro c hc
  have hsign := List.all_eq_true.1 h.2 c hc
  rw [isNameSign, Bool.or_eq_true, beq_iff_eq] at hsign
  rcases hsign with halphanum | rfl
  · exact toNat_lt_of_isAlphanum halphanum
  · decide

lemma IsName.lowered_eq {t : List Char} (ht : Lowered name.toList t) : t = lower name.toList := by
  rw [eq_map_toLower_of_lowered ht h.ascii,
    eq_map_toLower_of_lowered (lowered_lower name.toList) h.ascii]

lemma IsName.lower_ne_nil : lower name.toList ≠ [] := by
  intro hnil
  rw [← lowered_eq_nil_iff (lowered_lower _), String.toList_eq_nil_iff] at hnil
  exact h.1 hnil

/-- In lower case a name is read as a whole, and as one segment. -/
lemma IsName.lower_dotted : ∀ c ∈ lower name.toList, Clause.isDottedChar c = true ∧ c ≠ '.' := by
  intro c hc
  rw [eq_map_toLower_of_lowered (lowered_lower _) h.ascii] at hc
  obtain ⟨d, hd, rfl⟩ := List.mem_map.1 hc
  exact ascii_induction
    (motive := fun d => isNameSign d = true →
      Clause.isDottedChar d.toLower = true ∧ d.toLower ≠ '.')
    (by decide +kernel) (h.ascii d hd) (List.all_eq_true.1 h.2 d hd)

end Names

/-! ### Reading the tables -/

/-- What stands behind a name begins with a space, if anything stands there. -/
def Cut (r : List Char) : Prop := ∀ c ∈ r.head?, c = ' '

lemma Cut.lowered {s t : List Char} (hs : Cut s) (h : Lowered s t) : Cut t := by
  cases h with
  | nil => exact hs
  | cons himage =>
    obtain rfl := hs _ rfl
    rw [image_of_not_word himage not_word_space]
    intro c hc
    simpa using hc.symm

section Keyword

variable {keyword : String} (hk : keyword ∈ keywords) {r : List Char}
include hk

lemma namesAfter_cut (hr : Cut r) {u : List Char} (hu : ¬keyword.toList <:+: u) :
    Clause.namesAfter keyword (u ++ r) = Clause.namesAfter keyword r := by
  refine namesAfter_append_of_free hu fun c hc => ?_
  rw [hr c hc]
  exact (isHead hk).space_not_mem

/-- Behind its keyword a name is read, and behind the other it is not. -/
lemma namesAfter_announced {word : String} (hword : word ∈ keywords) {name : String}
    (hname : IsName name) (hfree : Free name) (hr : Cut r) :
    Clause.namesAfter keyword (word.toList ++ ' ' :: (lower name.toList ++ r)) =
      (if keyword = word then [lower name.toList] else []) ++ Clause.namesAfter keyword r := by
  by_cases h : keyword = word
  · subst h
    have hdot : ∀ c ∈ r.head?, Clause.isDottedChar c = false := by
      intro c hc
      rw [hr c hc]
      decide
    have hread : Clause.namesAfter keyword (keyword.toList ++ [' '] ++ lower name.toList ++ r) =
        lower name.toList :: Clause.namesAfter keyword r :=
      namesAfter_name (by simp) (List.forall_mem_singleton.2 (by decide)) hname.lower_ne_nil
        (fun c hc => (hname.lower_dotted c hc).1) hdot
    simpa using hread
  · have hother : ∀ keyword ∈ keywords, ∀ word ∈ keywords, keyword ≠ word →
        ¬keyword.toList <:+: word.toList := by
      decide
    rw [if_neg h, List.nil_append,
      namesAfter_append_space (isHead hk).space_not_mem (hother _ hk _ hword h),
      namesAfter_cut hk hr (hfree.lowered (lowered_lower _) hk)]

end Keyword

/-! ### The joins -/

def joinsText (joins : List JoinClause) : List Char := joins.flatMap fun j => j.text.toList

lemma cut_joinsText (joins : List JoinClause) : Cut (joinsText joins) := by
  cases joins with
  | nil => simp [Cut, joinsText]
  | cons j joins => simp [Cut, joinsText, JoinClause.text]

/-- The words that a query is made of around its parts. -/
lemma lowered_word {word : String} (h : word ∈ ["SELECT", "FROM", "JOIN", "ON"]) {t : List Char}
    (ht : Lowered word.toList t) : t = word.toList.map Char.toLower := by
  have hword : ∀ word ∈ ["SELECT", "FROM", "JOIN", "ON"], IsKeyword word.toList := by
    decide +kernel
  exact eq_map_toLower_of_lowered ht (hword word h).ascii

lemma lowered_joinText {j : JoinClause} (h : IsName j.table) {t : List Char}
    (ht : Lowered j.text.toList t) : ∃ condition, Lowered j.condition.toList condition ∧
      t = ' ' :: ("join".toList ++ ' ' :: (lower j.table.toList ++
        ' ' :: ("on".toList ++ ' ' :: condition))) := by
  have htext : j.text.toList = [] ++ ' ' :: ("JOIN".toList ++ ' ' :: (j.table.toList ++
      ' ' :: ("ON".toList ++ ' ' :: j.condition.toList))) := by
    simp [JoinClause.text]
  rw [htext] at ht
  obtain ⟨u, _, rfl, hu, ht⟩ := lowered_append_sep not_word_space ht
  obtain ⟨join, _, rfl, hjoin, ht⟩ := lowered_append_sep not_word_space ht
  obtain ⟨table, _, rfl, htable, ht⟩ := lowered_append_sep not_word_space ht
  obtain ⟨on, condition, rfl, hon, hcondition⟩ := lowered_append_sep not_word_space ht
  refine ⟨condition, hcondition, ?_⟩
  rw [(lowered_eq_nil_iff hu).1 rfl, h.lowered_eq htable, lowered_word (by simp) hjoin,
    lowered_word (by simp) hon]
  rfl

/-- Clause by clause, the keyword of joins finds their tables and the other keyword nothing. -/
lemma namesAfter_joins {keyword : String} (hk : keyword ∈ keywords) {joins : List JoinClause}
    (hjoins : ∀ j ∈ joins, IsName j.table ∧ Free j.table ∧ Free j.condition) {r : List Char}
    (h : Lowered (joinsText joins) r) :
    Clause.namesAfter keyword r =
      if keyword = "join" then joins.map fun j => lower j.table.toList else [] := by
  have hspace := (isHead hk).space_not_mem
  induction joins generalizing r with
  | nil =>
    cases h
    simp [Clause.namesAfter]
  | cons j joins ih =>
    obtain ⟨hname, htable, hcondition⟩ := hjoins j List.mem_cons_self
    rw [joinsText, List.flatMap_cons] at h
    obtain ⟨t, r, rfl, ht, hr⟩ := lowered_append h
    obtain ⟨condition, hlow, rfl⟩ := lowered_joinText hname ht
    have hon : ∀ keyword ∈ keywords, ¬keyword.toList <:+: "on".toList := by decide
    have hrest : Clause.namesAfter keyword (' ' :: ("on".toList ++ ' ' :: (condition ++ r))) =
        Clause.namesAfter keyword r := by
      rw [namesAfter_space hspace (isHead hk).ne_nil, namesAfter_append_space hspace (hon _ hk),
        namesAfter_cut hk ((cut_joinsText joins).lowered hr) (hcondition.lowered hlow hk)]
    have hcut : Cut (' ' :: ("on".toList ++ ' ' :: (condition ++ r))) := by simp [Cut]
    have htail := ih (fun j hj => hjoins j (List.mem_cons_of_mem _ hj)) hr
    simp only [List.cons_append, List.append_assoc]
    calc Clause.namesAfter keyword (' ' :: ("join".toList ++ ' ' :: (lower j.table.toList ++
          ' ' :: ("on".toList ++ ' ' :: (condition ++ r)))))
        = (if keyword = "join" then [lower j.table.toList] else []) ++
            Clause.namesAfter keyword (' ' :: ("on".toList ++ ' ' :: (condition ++ r))) := by
          rw [namesAfter_space hspace (isHead hk).ne_nil,
            namesAfter_announced hk (by decide) hname htable hcut]
      _ = (if keyword = "join" then [lower j.table.toList] else []) ++
            if keyword = "join" then joins.map fun j => lower j.table.toList else [] := by
          rw [hrest, htail]
      _ = if keyword = "join" then (j :: joins).map fun j => lower j.table.toList else [] := by
          split <;> simp

/-! ### The whole query -/

variable {q : JoinQuery}

lemma toList_sql (q : JoinQuery) :
    q.sql.toList = "SELECT".toList ++ ' ' :: (q.columns.toList ++ ' ' :: ("FROM".toList ++
      ' ' :: (q.first.toList ++ joinsText q.joins))) := by
  simp [JoinQuery.sql, joinsText, List.flatMap_def, Function.comp_def]

lemma lowered_sql (h : q.WellFormed) : ∃ columns r, Lowered q.columns.toList columns ∧
    Lowered (joinsText q.joins) r ∧
      lower q.sql.toList = "select".toList ++ ' ' :: (columns ++ ' ' :: ("from".toList ++
        ' ' :: (lower q.first.toList ++ r))) := by
  have hfirst : IsName q.first := h.isName _ List.mem_cons_self
  have hlow := lowered_lower q.sql.toList
  generalize lower q.sql.toList = t at hlow
  rw [toList_sql] at hlow
  obtain ⟨select, _, rfl, hselect, hlow⟩ := lowered_append_sep not_word_space hlow
  obtain ⟨columns, _, rfl, hcolumns, hlow⟩ := lowered_append_sep not_word_space hlow
  obtain ⟨from', _, rfl, hfrom, hlow⟩ := lowered_append_sep not_word_space hlow
  obtain ⟨first, r, rfl, hname, hr⟩ := lowered_append hlow
  refine ⟨columns, r, hcolumns, hr, ?_⟩
  rw [lowered_word (by simp) hselect, lowered_word (by simp) hfrom, hfirst.lowered_eq hname]
  rfl

lemma namesAfter_sql (h : q.WellFormed) {keyword : String} (hk : keyword ∈ keywords) :
    Clause.namesAfter keyword (lower q.sql.toList) =
      (if keyword = "from" then [lower q.first.toList] else []) ++
        if keyword = "join" then q.joins.map fun j => lower j.table.toList else [] := by
  obtain ⟨columns, r, hcolumns, hr, heq⟩ := lowered_sql h
  have hselect : ∀ keyword ∈ keywords, ¬keyword.toList <:+: "select".toList := by decide +kernel
  have hspace := (isHead hk).space_not_mem
  have hfree : Free q.columns ∧ Free q.first := by
    constructor <;> exact h.free _ (by simp [JoinQuery.names])
  have hjoins : ∀ j ∈ q.joins, IsName j.table ∧ Free j.table ∧ Free j.condition := by
    intro j hj
    have hname : j.table ∈ q.names :=
      List.mem_cons_of_mem _ (List.mem_map_of_mem hj)
    exact ⟨h.isName _ hname, h.free _ (by simp [hname]),
      h.free _ (List.mem_append_right _ (List.mem_map_of_mem hj))⟩
  rw [heq, namesAfter_append_space hspace (hselect _ hk),
    namesAfter_append_space hspace (hfree.1.lowered hcolumns hk),
    namesAfter_announced hk (by decide) (h.isName _ List.mem_cons_self) hfree.2
      ((cut_joinsText _).lowered hr),
    namesAfter_joins hk hjoins hr]

/-- **The tables of a query** are those it names, in lower case and each once. -/
theorem tables_sql (h : q.WellFormed) :
    Clause.tables (lowerCase q.sql) = (q.names.map lowerCase).eraseDups := by
  have hfrom := namesAfter_sql h (show "from" ∈ keywords by decide)
  have hjoin := namesAfter_sql h (show "join" ∈ keywords by decide)
  have hsegment : ∀ name ∈ q.names,
      String.ofList (Clause.lastSegment (lower name.toList)) = lowerCase name := by
    intro name hname
    have hfree : '.' ∉ lower name.toList := fun hdot =>
      ((h.isName name hname).lower_dotted _ hdot).2 rfl
    rw [lastSegment_of_free hfree, lowerCase]
  have hnames : Clause.namesAfter "from" (lower q.sql.toList) ++
        Clause.namesAfter "join" (lower q.sql.toList) =
      q.names.map fun name => lower name.toList := by
    rw [hfrom, hjoin]
    simp [JoinQuery.names]
  calc Clause.tables (lowerCase q.sql)
      = ((q.names.map fun name => lower name.toList).map fun n =>
          String.ofList (Clause.lastSegment n)).eraseDups := by
        rw [Clause.tables, toList_lowerCase, hnames]
    _ = (q.names.map lowerCase).eraseDups := by
        rw [List.map_map]
        exact congrArg List.eraseDups (List.map_congr_left hsegment)

lemma joinPaths_sql (h : q.WellFormed) (s : Schema) :
    (Outline.ofSql q.sql (some s)).joinPaths =
      (ofSchema s).joinPaths ((q.names.map lowerCase).eraseDups) := by
  unfold Outline.ofSql
  dsimp only
  rw [tables_sql h]

/-! ### Ways along foreign keys -/

/-- From `start` to `goal` along foreign keys, each in either direction. -/
structure IsKeyWay (s : Schema) (start goal : String) (path : List String) : Prop where
  head : path.head? = some start
  last : path.getLast? = some goal
  adjacent : path.IsChain (Joined (s.foreignKeys.map fun k => (k.table, k.referredTable)))

variable {s : Schema} {start goal : String} {path : List String}

lemma isWalk_ofSchema_iff : IsWalk (ofSchema s) start goal path ↔ IsKeyWay s start goal path := by
  have hchain : path.IsChain (fun t u => u ∈ (ofSchema s).neighbors t) ↔
      path.IsChain (Joined (s.foreignKeys.map fun k => (k.table, k.referredTable))) :=
    List.IsChain.iff fun t u => mem_neighbors_iff _
  constructor
  · rintro ⟨hhead, hlast, hadj⟩
    exact ⟨hhead, hlast, hchain.1 hadj⟩
  · rintro ⟨hhead, hlast, hadj⟩
    exact ⟨hhead, hlast, hchain.2 hadj⟩

lemma IsKeyWay.reverse (h : IsKeyWay s start goal path) : IsKeyWay s goal start path.reverse := by
  rw [← isWalk_ofSchema_iff] at h ⊢
  exact IsWalk.reverse (fun t u => mem_neighbors_comm _) h

/-- A way that is given is a shortest one. -/
lemma isKeyWay_of_mem {tables : List String} {e : JoinPath}
    (h : e ∈ (ofSchema s).joinPaths tables) : IsKeyWay s e.start e.goal e.path ∧
      ∀ way, IsKeyWay s e.start e.goal way → e.path.length ≤ way.length := by
  obtain ⟨-, hpath, hne⟩ := mem_joinPaths_iff.1 h
  rcases joinPath_cases (ascending_ofEdges _) e.start e.goal with hbest | ⟨hnil, -⟩
  · rw [hpath]
    exact ⟨isWalk_ofSchema_iff.1 hbest.walk, fun way hway =>
      hbest.shortest way (isWalk_ofSchema_iff.2 hway)⟩
  · rw [hpath] at hne
    exact absurd hnil hne

/-! ### Names and tables -/

lemma IsName.lowerCase_eq_iff {name : String} (h : IsName name) :
    lowerCase name = name ↔ name.toList.map Char.toLower = name.toList := by
  rw [← eq_map_toLower_of_lowered (lowered_lower _) h.ascii, ← toList_lowerCase, String.toList_inj]

section Query

variable (h : q.WellFormed)
include h

/-- A name is among the tables that were read if it is its own lower case. -/
lemma mem_tables_iff {name : String} (hname : name ∈ q.names) :
    name ∈ (q.names.map lowerCase).eraseDups ↔ lowerCase name = name := by
  rw [List.mem_eraseDups]
  constructor
  · intro hm
    obtain ⟨other, -, rfl⟩ := List.mem_map.1 hm
    rw [(h.isName _ hname).lowerCase_eq_iff, toList_lowerCase]
    exact map_toLower_lowered (lowered_lower _)
  · intro heq
    rw [← heq]
    exact List.mem_map_of_mem hname

lemma hasEntry_sql_iff : HasEntry (Outline.ofSql q.sql (some s)).joinPaths start goal ↔
    [start, goal].Sublist (q.names.map lowerCase).eraseDups ∧
      ∃ way, IsKeyWay s start goal way := by
  have hg : Ascending (ofSchema s) := ascending_ofEdges _
  simp only [joinPaths_sql h, hasEntry_joinPaths_iff hg, isWalk_ofSchema_iff]

/-- Two of the tables that were read are a pair in one order or the other. -/
lemma hasEntry_or_iff (hs : start ∈ q.names) (hg : goal ∈ q.names) (hne : start ≠ goal) :
    HasEntry (Outline.ofSql q.sql (some s)).joinPaths start goal ∨
        HasEntry (Outline.ofSql q.sql (some s)).joinPaths goal start ↔
      (∃ way, IsKeyWay s start goal way) ∧ lowerCase start = start ∧ lowerCase goal = goal := by
  have hback : (∃ way, IsKeyWay s goal start way) ↔ ∃ way, IsKeyWay s start goal way :=
    ⟨fun ⟨_, hway⟩ => ⟨_, hway.reverse⟩, fun ⟨_, hway⟩ => ⟨_, hway.reverse⟩⟩
  rw [hasEntry_sql_iff h, hasEntry_sql_iff h, hback, ← or_and_right, and_comm,
    ← mem_tables_iff h hs, ← mem_tables_iff h hg]
  refine and_congr_right fun _ => ⟨?_, fun ⟨hstart, hgoal⟩ => pair_sublist_or hstart hgoal hne⟩
  rintro (hsub | hsub)
  · exact ⟨hsub.subset List.mem_cons_self, hsub.subset (List.mem_cons_of_mem _ List.mem_cons_self)⟩
  · exact ⟨hsub.subset (List.mem_cons_of_mem _ List.mem_cons_self), hsub.subset List.mem_cons_self⟩

/-- No way leads back where the names stay apart in lower case. -/
lemma not_hasEntry_back (hnodup : (q.names.map lowerCase).Nodup) {i j : Fin q.names.length}
    (hij : i < j) :
    ¬HasEntry (Outline.ofSql q.sql (some s)).joinPaths q.names[j] q.names[i] := by
  intro hentry
  obtain ⟨hback, -⟩ := (hasEntry_sql_iff h).1 hentry
  have hi : lowerCase q.names[i] = q.names[i] :=
    (mem_tables_iff h (List.getElem_mem _)).1 (hback.subset (by simp))
  have hj : lowerCase q.names[j] = q.names[j] :=
    (mem_tables_iff h (List.getElem_mem _)).1 (hback.subset (by simp))
  have hthere : [lowerCase q.names[i], lowerCase q.names[j]].Sublist (q.names.map lowerCase) :=
    (pair_sublist_of_lt hij).map lowerCase
  rw [hi, hj] at hthere
  exact not_pair_sublist_swap hnodup hthere (hback.trans (eraseDups_sublist _))

/-- **The ways between named tables.** Each way that is given is a shortest one along foreign keys.
Between two of the tables a way is given exactly when the foreign keys connect them and neither
name has a capital letter. It leads from the first to the second, unless the query names one table
in two letter cases. -/
theorem joinPaths_named (s : Schema) :
    let paths := (Outline.ofSql q.sql (some s)).joinPaths
    (∀ e ∈ paths, IsKeyWay s e.start e.goal e.path ∧
      ∀ way, IsKeyWay s e.start e.goal way → e.path.length ≤ way.length) ∧
    ∀ i j : Fin q.names.length, i < j →
      (HasEntry paths q.names[i] q.names[j] ∨ HasEntry paths q.names[j] q.names[i] ↔
        (∃ way, IsKeyWay s q.names[i] q.names[j] way) ∧
          lowerCase q.names[i] = q.names[i] ∧ lowerCase q.names[j] = q.names[j]) ∧
      ((q.names.map lowerCase).Nodup → ¬HasEntry paths q.names[j] q.names[i]) := by
  refine ⟨fun e he => ?_, fun i j hij => ⟨?_, fun hnodup => not_hasEntry_back h hnodup hij⟩⟩
  · rw [joinPaths_sql h] at he
    exact isKeyWay_of_mem he
  · have hne : q.names[i] ≠ q.names[j] := by
      intro heq
      exact absurd (h.nodup.getElem_inj_iff.1 heq) (by omega)
    exact hasEntry_or_iff h (List.getElem_mem _) (List.getElem_mem _) hne

end Query

/-- The way from items to users goes through a table that the query does not name. -/
theorem joinPaths_named_shop :
    let q : JoinQuery := ⟨"*", "order_items", [⟨"users", "users.id = order_items.id"⟩]⟩
    let s : Schema := ⟨"sqlite", .empty,
      [⟨"order_items", ["order_id"], "orders", ["id"]⟩, ⟨"orders", ["user_id"], "users", ["id"]⟩]⟩
    q.WellFormed ∧ IsKeyWay s "order_items" "users" ["order_items", "orders", "users"] ∧
      HasEntry (Outline.ofSql q.sql (some s)).joinPaths "order_items" "users" := by
  intro q s
  have hq : q.WellFormed := by decide +kernel
  have hway : IsKeyWay s "order_items" "users" ["order_items", "orders", "users"] :=
    ⟨rfl, rfl, by decide +kernel⟩
  have hnodup : (q.names.map lowerCase).Nodup := by decide +kernel
  have hlow : lowerCase "order_items" = "order_items" ∧ lowerCase "users" = "users" := by
    decide +kernel
  obtain ⟨hiff, hback⟩ := (joinPaths_named hq s).2 ⟨0, by decide⟩ ⟨1, by decide⟩ (by decide)
  exact ⟨hq, hway, (hiff.2 ⟨⟨_, hway⟩, hlow⟩).resolve_right (hback hnodup)⟩

/-- A table whose name has a capital letter is not found, though the query names it as the foreign
key does. -/
theorem capital_names_unjoined :
    let q : JoinQuery := ⟨"*", "Orders", [⟨"Users", "Orders.user_id = Users.id"⟩]⟩
    let s : Schema := ⟨"sqlite", .empty, [⟨"Orders", ["user_id"], "Users", ["id"]⟩]⟩
    q.sql = "SELECT * FROM Orders JOIN Users ON Orders.user_id = Users.id" ∧ q.WellFormed ∧
      IsKeyWay s "Orders" "Users" ["Orders", "Users"] ∧
      (Outline.ofSql q.sql (some s)).joinPaths = [] := by
  refine ⟨by decide +kernel, by decide +kernel, ⟨rfl, rfl, by decide +kernel⟩, by decide +kernel⟩

end QueryGuard.Proofs.NamedTables
