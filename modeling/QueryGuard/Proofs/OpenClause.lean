import QueryGuard.Outline.Basic
import QueryGuard.Proofs.AddedSemicolon
import QueryGuard.Proofs.LowerParts
import QueryGuard.Proofs.PassedSemicolon
import QueryGuard.Proofs.Terminator

/-!
The clause that is open at the end of a query.

Names, numbers and the columns of index hints are read up to the first sign that does not belong to
them, so a semicolon behind the query makes no difference there. The body of a clause goes on to the
next clause or to the end of the text, and a clause that no other one closes takes the semicolon
along.
-/

namespace QueryGuard.Proofs.OpenClause

open Text TextRuns StatementWords Places PassedSemicolon LowerParts Terminator Clause
open AddedSemicolon (toList_semicolon startsWithAny_semicolon)

/-- The clause is there, and behind the place where it first opens nothing stops it. -/
def RunsOn (start? : List Char → Option (List Char)) (stop : Mark) (s : List Char) : Prop :=
  ∃ clause, firstMatch? start? s = some clause ∧ places stop false clause [] = 0

/-- A WHERE, a GROUP BY or an ORDER BY runs to the end of the query. -/
def OpenAtEnd (sql : String) : Prop :=
  RunsOn (after? "where") endsWhere (lower sql.toList) ∨
    RunsOn (fun s => (groupBy? s).bind blanks?) endsGroup (lower sql.toList) ∨
      RunsOn (fun s => (orderBy? s).bind blanks?) endsOrder (lower sql.toList)

/-! ### What the semicolon does not change -/

section Unchanged

variable (text : String)

lemma lowerCase_semicolon : lowerCase (text ++ ";") = lowerCase text ++ ";" := by
  rw [← String.toList_inj, toList_lowerCase, toList_semicolon, toList_semicolon, lower_semicolon,
    toList_lowerCase]

lemma namesAfter_semicolon {keyword : String} (hk : ';' ∉ keyword.toList) :
    namesAfter keyword (text ++ ";").toList = namesAfter keyword text.toList := by
  have hnil : named? keyword [] = none := by
    cases hw : keyword.toList <;> simp [named?, after?, hw, List.isPrefixOf?, blanks?]
  rw [toList_semicolon]
  exact readAll_semicolon (carries_named? hk) hnil text.toList

lemma tables_semicolon : Clause.tables (text ++ ";") = Clause.tables text := by
  rw [Clause.tables, Clause.tables, namesAfter_semicolon text (by decide),
    namesAfter_semicolon text (by decide)]

lemma joins_semicolon : Clause.joins (text ++ ";") = Clause.joins text := by
  rw [Clause.joins, Clause.joins, namesAfter_semicolon text (by decide)]

/-- The number behind a LIMIT is read the same. -/
lemma limit_semicolon : Clause.limit (text ++ ";") = Clause.limit text := by
  have hcount : Carries fun r => (blanks? r).bind (run? isDecimalDigit) :=
    keeps_blanks?.bind_carries (carries_run? (by decide +kernel))
  have hstanding : standing "limit".toList false (text.toList ++ [';']) =
      (standing "limit".toList false text.toList).map (· ++ [';']) := by
    have hcut := standing_append_sep isKeyword_limit.letters isWordEnd_semicolon
      isKeyword_limit.ne_nil false text.toList []
    rwa [standing_nil, List.append_nil] at hcut
  have hfound : ∀ rests : List (List Char),
      (rests.map (· ++ [';'])).findSome? (fun r => (blanks? r).bind (run? isDecimalDigit)) =
        (rests.findSome? fun r => (blanks? r).bind (run? isDecimalDigit)).map
          fun x => (x.1, x.2 ++ [';']) := by
    intro rests
    rw [List.findSome?_map, List.map_findSome?]
    exact congrArg (fun f => rests.findSome? f) (funext hcount)
  rw [Clause.limit, Clause.limit, toList_semicolon, hstanding, hfound]
  cases (standing "limit".toList false text.toList).findSome? fun r =>
    (blanks? r).bind (run? isDecimalDigit) <;> rfl

lemma aggregations_semicolon : Clause.aggregations (text ++ ";") = Clause.aggregations text := by
  unfold Clause.aggregations
  refine List.filter_congr fun f _ => ?_
  rw [Bool.eq_iff_iff, contains_eq_true_iff, contains_eq_true_iff, toList_semicolon,
    List.infix_concat_iff, or_iff_right_iff_imp]
  intro hsuffix
  -- what is looked for ends in a parenthesis
  rcases List.suffix_concat_iff.1 hsuffix with hnil | ⟨t, ht, -⟩
  · simp at hnil
  · exact absurd (List.append_inj' ht rfl).2 (by decide)

lemma suggest_semicolon (sql : String) :
    IndexHint.suggest (sql ++ ";") = IndexHint.suggest sql := by
  have hjoin := readAll_semicolon carries_joinOn? rfl (lower sql.toList)
  have hwhere := readAll_semicolon carries_where? rfl (lower sql.toList)
  have horder := readAll_semicolon carries_orderBy? rfl (lower sql.toList)
  rw [IndexHint.suggest, IndexHint.suggest, toList_semicolon, lower_semicolon, hjoin, hwhere,
    horder]

end Unchanged

/-! ### Semicolons in what is read -/

/-- The number of semicolons in the parts. -/
def semicolons (parts : List String) : Nat := (parts.flatMap String.toList).count ';'

lemma semicolons_ofList (pieces : List (List Char)) :
    semicolons ((pieces.filter (· ≠ [])).map String.ofList) = pieces.flatten.count ';' := by
  have hflat : ((pieces.filter (· ≠ [])).map String.ofList).flatMap String.toList =
      pieces.flatten := by
    induction pieces with
    | nil => rfl
    | cons piece pieces ih =>
      by_cases hnil : piece = []
      · subst hnil
        simpa using ih
      · simpa [hnil] using ih
  rw [semicolons, hflat]

lemma count_eq_zero_of_blank {b : List Char} (hb : ∀ c ∈ b, isBlank c = true) :
    b.count ';' = 0 := by
  rw [List.count_eq_zero]
  intro hmem
  have hblank := hb ';' hmem
  rw [not_isBlank_semicolon] at hblank
  cases hblank

lemma count_trim (s : List Char) : (trim s).count ';' = s.count ';' := by
  obtain ⟨b, hb, hblank⟩ := exists_trimEnd (dropBlanks s)
  have hfront : (s.takeWhile isBlank).count ';' = 0 :=
    count_eq_zero_of_blank fun c hc => List.mem_takeWhile_imp hc
  have hs : s = s.takeWhile isBlank ++ (trim s ++ b) := by
    rw [trim, ← hb]
    exact List.takeWhile_append_dropWhile.symm
  have hcount := congrArg (List.count ';') hs
  rw [List.count_append, List.count_append, hfront, count_eq_zero_of_blank hblank] at hcount
  omega

lemma count_flatten_trim (pieces : List (List Char)) :
    (pieces.map trim).flatten.count ';' = pieces.flatten.count ';' := by
  induction pieces with
  | nil => rfl
  | cons piece pieces ih =>
    rw [List.map_cons, List.flatten_cons, List.flatten_cons, List.count_append, List.count_append,
      count_trim, ih]

lemma count_flatten_splitWhere {p : Char → Bool} (hp : p ';' = false) (s : List Char) :
    (splitWhere p s).flatten.count ';' = s.count ';' := by
  induction s using separated_induction (p := p) with
  | free w hw => simp [splitWhere_of_free hw]
  | sep w c s hw hc ih =>
    have hne : c ≠ ';' := by
      rintro rfl
      rw [hp] at hc
      cases hc
    rw [splitWhere_append_sep hc, splitWhere_of_free hw, List.flatten_append, List.count_append, ih,
      List.count_append, List.count_cons_of_ne hne]
    simp

lemma semicolons_items (s : List Char) : semicolons (items s) = s.count ';' := by
  rw [items, semicolons_ofList, count_flatten_trim, count_flatten_splitWhere (by decide)]

/-- What is read of the clause behind WHERE. -/
def condition (clause : List Char) : List String :=
  ([trim clause].filter (· ≠ [])).map String.ofList

lemma semicolons_condition (s : List Char) : semicolons (condition s) = s.count ';' := by
  rw [condition, semicolons_ofList, List.flatten_singleton, count_trim]

/-! ### The clause -/

section Clause

variable {start? : List Char → Option (List Char)} {stop : Mark} {read : List Char → List String}

/-- **A clause takes the semicolon along** exactly when it runs to the end of the text. -/
lemma read_semicolon_iff (hstart : Keeps start?) (hnil : start? [] = none) (hstop : Unmoved stop)
    (hread : ∀ s, semicolons (read s) = s.count ';') (s : List Char) :
    ((body? start? stop (s ++ [';'])).map read).getD [] = ((body? start? stop s).map read).getD [] ↔
      ¬RunsOn start? stop s := by
  unfold body? RunsOn
  rw [firstMatch?_semicolon hstart hnil s]
  cases firstMatch? start? s with
  | none => simp
  | some clause =>
    simp only [Option.map_some, Option.getD_some, Option.some.injEq, exists_eq_left']
    by_cases hplaces : places stop false clause [] = 0
    · rw [upTo_semicolon_of_places hstop hplaces, upTo_of_places hplaces]
      refine iff_of_false (fun heq => ?_) (not_not.2 hplaces)
      have hcount := congrArg semicolons heq
      rw [hread, hread, List.count_append, List.count_singleton_self] at hcount
      omega
    · rw [upTo_semicolon_of_stop hstop hplaces]
      exact iff_of_true rfl hplaces

end Clause

section Read

variable (text : String)

lemma filters_semicolon_iff : Clause.filters (text ++ ";") = Clause.filters text ↔
    ¬RunsOn (after? "where") endsWhere text.toList := by
  have hfilters : ∀ text : String, Clause.filters text =
      ((body? (after? "where") endsWhere text.toList).map condition).getD [] := by
    intro text
    unfold Clause.filters
    cases body? (after? "where") endsWhere text.toList <;> rfl
  rw [hfilters, hfilters, toList_semicolon]
  exact read_semicolon_iff (keeps_after? (by decide)) rfl unmoved_endsWhere semicolons_condition
    text.toList

lemma groupBy_semicolon_iff : Clause.groupBy (text ++ ";") = Clause.groupBy text ↔
    ¬RunsOn (fun s => (groupBy? s).bind blanks?) endsGroup text.toList := by
  rw [Clause.groupBy, Clause.groupBy, toList_semicolon]
  exact read_semicolon_iff (keeps_groupBy?.bind keeps_blanks?) rfl unmoved_endsGroup
    semicolons_items text.toList

lemma orderBy_semicolon_iff : Clause.orderBy (text ++ ";") = Clause.orderBy text ↔
    ¬RunsOn (fun s => (orderBy? s).bind blanks?) endsOrder text.toList := by
  rw [Clause.orderBy, Clause.orderBy, toList_semicolon]
  exact read_semicolon_iff (keeps_orderBy?.bind keeps_blanks?) rfl unmoved_endsOrder
    semicolons_items text.toList

end Read

/-! ### The outline -/

lemma isWrite_semicolon (sql : String) :
    (Statement.ofSql (sql ++ ";")).isWrite = (Statement.ofSql sql).isWrite :=
  startsWithAny_semicolon (fun _ h => StatementHead.isHead_of_isWrite h) sql

section Outline

variable (sql : String) (schema : Option Schema)

lemma filters_ofSql : (Outline.ofSql sql schema).filters = Clause.filters (lowerCase sql) := by
  unfold Outline.ofSql
  dsimp only

lemma groupBy_ofSql : (Outline.ofSql sql schema).groupBy = Clause.groupBy (lowerCase sql) := by
  unfold Outline.ofSql
  dsimp only

lemma orderBy_ofSql : (Outline.ofSql sql schema).orderBy = Clause.orderBy (lowerCase sql) := by
  unfold Outline.ofSql
  dsimp only

/-- Without the bodies of the clauses nothing is left that could differ. -/
lemma ofSql_semicolon_iff : Outline.ofSql (sql ++ ";") schema = Outline.ofSql sql schema ↔
    Clause.filters (lowerCase sql ++ ";") = Clause.filters (lowerCase sql) ∧
      Clause.groupBy (lowerCase sql ++ ";") = Clause.groupBy (lowerCase sql) ∧
      Clause.orderBy (lowerCase sql ++ ";") = Clause.orderBy (lowerCase sql) := by
  constructor
  · intro heq
    have hfilters := congrArg Outline.filters heq
    have hgroups := congrArg Outline.groupBy heq
    have horders := congrArg Outline.orderBy heq
    rw [filters_ofSql, filters_ofSql, lowerCase_semicolon] at hfilters
    rw [groupBy_ofSql, groupBy_ofSql, lowerCase_semicolon] at hgroups
    rw [orderBy_ofSql, orderBy_ofSql, lowerCase_semicolon] at horders
    exact ⟨hfilters, hgroups, horders⟩
  · rintro ⟨hfilters, hgroups, horders⟩
    unfold Outline.ofSql
    dsimp only
    rw [lowerCase_semicolon, isWrite_semicolon, tables_semicolon, joins_semicolon,
      aggregations_semicolon, limit_semicolon, hfilters, hgroups, horders]

lemma not_openAtEnd_iff :
    ¬OpenAtEnd sql ↔ Outline.ofSql (sql ++ ";") schema = Outline.ofSql sql schema := by
  rw [ofSql_semicolon_iff, filters_semicolon_iff, groupBy_semicolon_iff, orderBy_semicolon_iff,
    toList_lowerCase, OpenAtEnd, not_or, not_or]

end Outline

/-- **A semicolon behind a query** changes no index hint, and nothing of its outline unless a clause
runs to the end of the query. The tables, the limit and what follows from them never change. -/
theorem outline_semicolon_iff (sql : String) (schema : Option Schema) :
    IndexHint.suggest (sql ++ ";") = IndexHint.suggest sql ∧
      let marked := Outline.ofSql (sql ++ ";") schema
      let outline := Outline.ofSql sql schema
      (marked.intent = outline.intent ∧ marked.tables = outline.tables ∧
        marked.joins = outline.joins ∧ marked.aggregations = outline.aggregations ∧
        marked.limit = outline.limit ∧ marked.joinPaths = outline.joinPaths) ∧
      (marked = outline ↔ ¬OpenAtEnd sql) := by
  refine ⟨suggest_semicolon sql, ?_, (not_openAtEnd_iff sql schema).symm⟩
  unfold Outline.ofSql
  dsimp only
  rw [lowerCase_semicolon, isWrite_semicolon, tables_semicolon, joins_semicolon,
    aggregations_semicolon, limit_semicolon]
  exact ⟨rfl, rfl, rfl, rfl, rfl, rfl⟩

/-- The last clause of a query takes the semicolon along. -/
theorem semicolon_in_last_clause :
    let sql := "SELECT * FROM users WHERE id = 1"
    ';' ∉ sql.toList ∧ (Outline.ofSql sql none).filters = ["id = 1"] ∧
      (Outline.ofSql (sql ++ ";") none).filters = ["id = 1;"] := by
  decide +kernel

end QueryGuard.Proofs.OpenClause
