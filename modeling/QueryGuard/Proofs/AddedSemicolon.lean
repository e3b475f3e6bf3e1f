import QueryGuard.Proofs.ForeignPlan
import QueryGuard.Proofs.WriteCalls

/-!
What a semicolon at the end does to a statement.

A semicolon behind a single statement starts no second one, begins no head, and leaves every run of
word characters as it is. But blocked words and WHERE are looked for between blanks, and the
semicolon touches the last word of the text: a word that stands nowhere else is no longer found.
A plan whose bounded text is the statement itself has another text than the statement with the
semicolon.
-/

namespace QueryGuard.Proofs.AddedSemicolon

open Policy Text TextRuns LowerImage StatementWords StandingWords StatementHead Terminator
open BlockedWords PolicyOrder BoundedPlan ForeignPlan WriteCalls

/-- The word stands in the text, and nowhere but at its very end. -/
def OnlyLast (word sql : String) : Prop :=
  Stands isBlank isBlank word sql ∧
    ∀ u t v, sql.toList = u ++ t ++ v → lower t = word.toList →
      (∀ c ∈ u.getLast?, isBlank c = true) → (∀ c ∈ v.head?, isBlank c = true) → v = []

/-- Some character is not blank. -/
def NotBlank (sql : String) : Prop := ∃ c ∈ sql.toList, isBlank c = false

variable {word sql : String}

/-! ### What is asked of a statement -/

lemma toList_semicolon (sql : String) : (sql ++ ";").toList = sql.toList ++ [';'] :=
  String.toList_append

lemma isWordEnd_semicolon : ∀ c ∈ [';'], isWordEnd c = true :=
  List.forall_mem_singleton.2 (by decide +kernel)

/-- What stands before the semicolon with a blank behind it is still there. -/
lemma stands_semicolon_iff (hw : IsKeyword word.toList) :
    Stands isBlank isBlank word (sql ++ ";") ↔
      Stands isBlank isBlank word sql ∧ ¬OnlyLast word sql := by
  constructor
  · rintro ⟨u, t, v, hs, ht, hu, hv⟩
    rw [toList_semicolon] at hs
    rcases List.eq_nil_or_concat v with rfl | ⟨v, c, rfl⟩
    · -- the word would end in the semicolon
      rw [List.append_nil] at hs
      obtain ⟨t', c, rfl⟩ := (List.eq_nil_or_concat t).resolve_left (hw.ne_nil_of_lower ht)
      rw [List.concat_eq_append, ← List.append_assoc] at hs
      obtain ⟨-, hc⟩ := List.append_inj' hs rfl
      have hend := isWordEnd_semicolon c (by rw [hc]; exact List.mem_singleton_self c)
      rw [free_of_lower hw ht c (by simp)] at hend
      cases hend
    · rw [List.concat_eq_append, ← List.append_assoc] at hs
      obtain ⟨hs, hc⟩ := List.append_inj' hs rfl
      have hne : v ≠ [] := by
        rintro rfl
        have hblank := hv c (by simp)
        rw [← List.singleton_injective hc] at hblank
        revert hblank
        decide
      have hv' : ∀ c ∈ v.head?, isBlank c = true := by
        intro d hd
        refine hv d ?_
        rw [List.concat_eq_append, List.head?_append_of_ne_nil _ hne]
        exact hd
      exact ⟨⟨u, t, v, hs, ht, hu, hv'⟩, fun h => hne (h.2 u t v hs ht hu hv')⟩
  · rintro ⟨hstands, hnot⟩
    have hplace : ∃ u t v, sql.toList = u ++ t ++ v ∧ lower t = word.toList ∧
        (∀ c ∈ u.getLast?, isBlank c = true) ∧ (∀ c ∈ v.head?, isBlank c = true) ∧ v ≠ [] := by
      by_contra hno
      refine hnot ⟨hstands, fun u t v hs ht hu hv => ?_⟩
      by_contra hne
      exact hno ⟨u, t, v, hs, ht, hu, hv, hne⟩
    obtain ⟨u, t, v, hs, ht, hu, hv, hne⟩ := hplace
    refine ⟨u, t, v ++ [';'], ?_, ht, hu, ?_⟩
    · rw [toList_semicolon, hs, List.append_assoc]
    · rw [List.head?_append_of_ne_nil _ hne]
      exact hv

lemma hasWord_semicolon_iff (hw : IsKeyword word.toList) (sql : String) :
    (Statement.ofSql (sql ++ ";")).hasWord word = true ↔
      (Statement.ofSql sql).hasWord word = true ∧ ¬OnlyLast word sql := by
  rw [hasWord_iff_stands hw, hasWord_iff_stands hw, stands_semicolon_iff hw]

lemma startsWithAny_semicolon {heads : List String} (hh : ∀ head ∈ heads, IsHead head)
    (sql : String) :
    (Statement.ofSql (sql ++ ";")).startsWithAny heads =
      (Statement.ofSql sql).startsWithAny heads := by
  have hletter : ∀ c ∈ [';'], isWordChar c = false :=
    List.forall_mem_singleton.2 (by decide +kernel)
  rw [Bool.eq_iff_iff, startsWithAny_ofSql_iff hh, startsWithAny_ofSql_iff hh, toList_semicolon]
  refine exists_congr fun head => and_congr_right fun hm => ?_
  exact ⟨begins_of_append (hh head hm) hletter, fun h => begins_append (hh head hm) h _⟩

lemma hasLimit_semicolon (sql : String) :
    (Statement.ofSql (sql ++ ";")).hasLimit = (Statement.ofSql sql).hasLimit := by
  rw [hasLimit_ofSql, hasLimit_ofSql, Bool.eq_iff_iff, hasLimit_iff, hasLimit_iff,
    toList_semicolon, runs_append_of_sep isWordEnd_semicolon]

lemma countWord_semicolon (hw : IsKeyword word.toList) (sql : String) :
    (Statement.ofSql (sql ++ ";")).countWord word = (Statement.ofSql sql).countWord word := by
  rw [countWord_ofSql hw, countWord_ofSql hw, toList_semicolon,
    runs_append_of_sep isWordEnd_semicolon]

/-- A text without semicolons is a single statement, with or without one behind it. -/
lemma hasInnerSemicolon_eq_false (hfree : ';' ∉ sql.toList) :
    (Statement.ofSql sql).hasInnerSemicolon = false ∧
      (Statement.ofSql (sql ++ ";")).hasInnerSemicolon = false := by
  rw [← oneStatement_iff, ← oneStatement_iff]
  refine ⟨oneStatement_of_dropLast fun h => hfree (List.dropLast_subset _ h),
    oneStatement_of_dropLast ?_⟩
  rw [toList_semicolon, List.dropLast_concat]
  exact hfree

lemma isEmpty_eq_false (hne : NotBlank sql) :
    (Statement.ofSql sql).isEmpty = false ∧ (Statement.ofSql (sql ++ ";")).isEmpty = false := by
  obtain ⟨c, hc, hblank⟩ := hne
  have hnonempty : ∀ {sql : String}, c ∈ sql.toList → (Statement.ofSql sql).isEmpty = false := by
    intro sql hc
    rw [← Bool.not_eq_true, isEmpty_ofSql_iff, words_eq_runs, runs_eq_nil_iff]
    intro hall
    rw [hall c hc] at hblank
    cases hblank
  exact ⟨hnonempty hc, hnonempty (by rw [toList_semicolon]; exact List.mem_append_left _ hc)⟩

/-! ### The validators -/

lemma find?_eq_find?_iff {α : Type} {p q : α → Bool} {l : List α}
    (h : ∀ a ∈ l, q a = true → p a = true) :
    l.find? q = l.find? p ↔ ∀ a, l.find? p = some a → q a = true := by
  induction l with
  | nil => simp
  | cons b l ih =>
    have ih' := ih fun a ha => h a (List.mem_cons_of_mem b ha)
    cases hp : p b with
    | false =>
      have hq : q b = false := by
        by_contra hq
        rw [h b List.mem_cons_self (by simpa using hq)] at hp
        cases hp
      rw [List.find?_cons_of_neg (by simp [hq]), List.find?_cons_of_neg (by simp [hp]), ih']
    | true =>
      rw [List.find?_cons_of_pos hp]
      constructor
      · intro he a ha
        rw [← he] at ha
        exact List.find?_some ha
      · intro hq
        exact List.find?_cons_of_pos (hq b rfl)

/-- The checks of a validator, up to its heads, its blocked words and its own refusal. -/
def checks (heads blocked : List String) (refusal : Refusal) (s : Statement) : Option Refusal :=
  if s.isEmpty then some .empty
  else if !s.startsWithAny heads then some refusal
  else Validation.common s blocked

lemma read_eq_checks (sql : String) :
    Validation.read sql =
      checks ["select", "with"] Validation.blockedInRead .notRead (.ofSql sql) := rfl

lemma write_eq_checks (sql : String) :
    Validation.write sql =
      checks ["insert", "update", "delete"] Validation.blockedInWrite .notWrite (.ofSql sql) := rfl

lemma checks_of_single {heads blocked : List String} {refusal : Refusal} {s : Statement}
    (he : s.isEmpty = false) (hi : s.hasInnerSemicolon = false) :
    checks heads blocked refusal s =
      if s.startsWithAny heads then (blocked.find? s.hasWord).map .blocked else some refusal := by
  unfold checks Validation.common
  rw [he, hi]
  cases s.startsWithAny heads <;> rfl

/-- The semicolon hides the word that refuses a text when that word stands at the end only. -/
lemma checks_semicolon_iff {heads blocked : List String} (hh : ∀ head ∈ heads, IsHead head)
    (hb : ∀ word ∈ blocked, IsKeyword word.toList) {refusal : Refusal}
    (hrefusal : ∀ word, refusal ≠ .blocked word) (hfree : ';' ∉ sql.toList) (hne : NotBlank sql) :
    checks heads blocked refusal (.ofSql (sql ++ ";")) =
        checks heads blocked refusal (.ofSql sql) ↔
      ¬∃ word, checks heads blocked refusal (.ofSql sql) = some (.blocked word) ∧
        OnlyLast word sql := by
  obtain ⟨he, he'⟩ := isEmpty_eq_false hne
  obtain ⟨hi, hi'⟩ := hasInnerSemicolon_eq_false hfree
  rw [checks_of_single he hi, checks_of_single he' hi', startsWithAny_semicolon hh]
  cases hstart : (Statement.ofSql sql).startsWithAny heads with
  | false =>
    simp only [Bool.false_eq_true, if_false, true_iff]
    rintro ⟨word, hr, -⟩
    exact hrefusal word (Option.some.inj hr)
  | true =>
    have hseen : ∀ word ∈ blocked, (Statement.ofSql (sql ++ ";")).hasWord word = true →
        (Statement.ofSql sql).hasWord word = true :=
      fun word hm hw => ((hasWord_semicolon_iff (hb word hm) sql).1 hw).1
    rw [if_pos rfl, if_pos rfl,
      (Option.map_injective fun _ _ h => Refusal.blocked.inj h).eq_iff, find?_eq_find?_iff hseen]
    constructor
    · rintro h ⟨word, hw, hlast⟩
      obtain ⟨word', hfind, hw'⟩ := Option.map_eq_some_iff.1 hw
      obtain rfl := Refusal.blocked.inj hw'
      have hm := List.mem_of_find?_eq_some hfind
      exact ((hasWord_semicolon_iff (hb _ hm) sql).1 (h _ hfind)).2 hlast
    · intro h word hfind
      have hm := List.mem_of_find?_eq_some hfind
      refine (hasWord_semicolon_iff (hb word hm) sql).2 ⟨List.find?_some hfind, fun hlast => h ?_⟩
      exact ⟨word, by rw [hfind]; rfl, hlast⟩

/-! ### The policy -/

lemma isKeyword_join : IsKeyword "join".toList := by decide +kernel

lemma isRead_semicolon (sql : String) :
    (Statement.ofSql (sql ++ ";")).isRead = (Statement.ofSql sql).isRead :=
  startsWithAny_semicolon (fun _ h => isHead_of_isRead h) sql

lemma admitted_semicolon_iff (hfree : ';' ∉ sql.toList) (readOnly : Bool) :
    Admitted (.ofSql (sql ++ ";")) readOnly ↔ Admitted (.ofSql sql) readOnly := by
  obtain ⟨hi, hi'⟩ := hasInnerSemicolon_eq_false hfree
  constructor
  · rintro ⟨h1, -, h3⟩
    exact ⟨isRead_semicolon sql ▸ h1, hi, countWord_semicolon isKeyword_join sql ▸ h3⟩
  · rintro ⟨h1, -, h3⟩
    exact ⟨(isRead_semicolon sql).symm ▸ h1, hi',
      (countWord_semicolon isKeyword_join sql).symm ▸ h3⟩

lemma isUnbounded_semicolon_iff (sql : String) :
    (Statement.ofSql (sql ++ ";")).isUnbounded = true ↔
      (Statement.ofSql sql).isUnbounded = true ∨
        RowBound.hasLimit sql = false ∧ OnlyLast "where" sql := by
  rw [Statement.isUnbounded, Statement.isUnbounded, hasLimit_semicolon, hasLimit_ofSql,
    Bool.and_eq_true, Bool.and_eq_true, Bool.not_eq_true', Bool.not_eq_true', Bool.not_eq_true',
    ← Bool.not_eq_true, hasWord_semicolon_iff isKeyword_where,
    ← Bool.not_eq_true ((Statement.ofSql sql).hasWord "where")]
  constructor
  · rintro ⟨hw, hl⟩
    by_cases hlast : OnlyLast "where" sql
    · exact .inr ⟨hl, hlast⟩
    · exact .inl ⟨fun h => hw ⟨h, hlast⟩, hl⟩
  · rintro (⟨hw, hl⟩ | ⟨hl, hlast⟩)
    · exact ⟨fun h => hw h.1, hl⟩
    · exact ⟨fun h => h.2 hlast, hl⟩

/-- A statement needs a bound with the semicolon as without, unless its WHERE is hidden. -/
lemma isUnbounded_semicolon_eq_iff (sql : String) :
    (Statement.ofSql (sql ++ ";")).isUnbounded = (Statement.ofSql sql).isUnbounded ↔
      ¬(RowBound.hasLimit sql = false ∧ OnlyLast "where" sql) := by
  rw [Bool.eq_iff_iff, isUnbounded_semicolon_iff, or_iff_left_iff_imp]
  constructor
  · intro himp hhidden
    have hseen : (Statement.ofSql sql).isUnbounded = false := by
      rw [isUnbounded_eq_false_iff, hasWord_iff_stands isKeyword_where]
      exact .inl hhidden.2.1
    rw [himp hhidden] at hseen
    cases hseen
  · exact fun hnot hhidden => absurd hhidden hnot

lemma semicolon_mem_text_iff (sql : String) :
    ';' ∈ (Statement.ofSql sql).text.toList ↔ ';' ∈ sql.toList := by
  have hblank : isBlank ';' = false := by decide
  have hfilter : ∀ s : List Char, ';' ∈ s ↔ ';' ∈ s.filter fun c => !isBlank c := by
    intro s
    simp [hblank]
  rw [Statement.toList_text_ofSql, sign_mem_lowered_iff (lowered_lower _) (by decide +kernel),
    hfilter, filter_collapse, ← hfilter]

lemma ofSql_semicolon_ne (hfree : ';' ∉ sql.toList) :
    Statement.ofSql (sql ++ ";") ≠ Statement.ofSql sql := by
  intro he
  rw [← semicolon_mem_text_iff, ← he, semicolon_mem_text_iff, toList_semicolon] at hfree
  exact hfree (List.mem_append_right _ List.mem_cons_self)

/-- A plan that does not say that it added a bound, and whose bounded text is the statement itself,
with the semicolon or without. -/
def RepeatsText (p : Plan) (sql : String) : Prop :=
  p.limitInjected = false ∧
    (Statement.ofSql p.safeSql = .ofSql sql ∨ Statement.ofSql p.safeSql = .ofSql (sql ++ ";"))

/-- Any other text than these two bounds both statements or neither. -/
lemma hasBoundedPlan_semicolon_iff {p : Plan} (hfree : ';' ∉ sql.toList) (hne : NotBlank sql) :
    hasBoundedPlan (.ofSql (sql ++ ";")) p = hasBoundedPlan (.ofSql sql) p ↔
      ¬RepeatsText p sql := by
  obtain ⟨he, he'⟩ := isEmpty_eq_false hne
  have hother := ofSql_semicolon_ne hfree
  unfold hasBoundedPlan RepeatsText
  dsimp only
  cases p.limitInjected with
  | true => simp
  | false =>
    by_cases hsame : Statement.ofSql p.safeSql = .ofSql sql
    · simp [hsame, he, hother.symm]
    · by_cases hsame' : Statement.ofSql p.safeSql = .ofSql (sql ++ ";")
      · simp [hsame', he', hother]
      · simp [hsame, hsame', bne_iff_ne.2 hsame, bne_iff_ne.2 hsame']

/-- The semicolon changes the judgement of a text that the rules about the statement admit, and
this where it hides the WHERE, or makes another text of the one that the plan repeats. -/
lemma judge_semicolon_iff {p : Plan} {readOnly : Bool} (hfree : ';' ∉ sql.toList)
    (hne : NotBlank sql) :
    judge (sql ++ ";") p readOnly = judge sql p readOnly ↔
      ¬(Admitted (.ofSql sql) readOnly ∧
        (RowBound.hasLimit sql = false ∧ OnlyLast "where" sql ∨
          (Statement.ofSql sql).isUnbounded = true ∧ RepeatsText p sql)) := by
  obtain ⟨hi, hi'⟩ := hasInnerSemicolon_eq_false hfree
  have hwrites : barWrites (.ofSql (sql ++ ";")) p readOnly =
      barWrites (.ofSql sql) p readOnly := by
    unfold barWrites
    rw [isRead_semicolon]
  have hone : oneStatement (.ofSql (sql ++ ";")) p readOnly =
      oneStatement (.ofSql sql) p readOnly := by
    unfold oneStatement
    rw [hi, hi']
  have hjoins : fewJoins (.ofSql (sql ++ ";")) p readOnly = fewJoins (.ofSql sql) p readOnly := by
    unfold fewJoins
    rw [countWord_semicolon isKeyword_join]
  rw [judge_eq_judge_iff hwrites hone hjoins, admitted_semicolon_iff hfree, boundedRows_eq_iff,
    isUnbounded_semicolon_eq_iff, hasBoundedPlan_semicolon_iff hfree hne]
  simp only [not_and, not_or]

/-- **A semicolon at the end.** Behind a text that has none and is not blank, a semicolon leaves
the answer of a validator as it is, unless that answer is a blocked word which stands at the end
only. It leaves the judgement as it is under every plan, unless the rules about the statement admit
the text and either its WHERE stands at the end only and it has no LIMIT, or it has neither and the
plan repeats the text without a mark of its own. -/
theorem semicolon_transparent_iff (hfree : ';' ∉ sql.toList) (hne : NotBlank sql) :
    (Validation.read (sql ++ ";") = Validation.read sql ↔
      ¬∃ word, Validation.read sql = some (.blocked word) ∧ OnlyLast word sql) ∧
    (Validation.write (sql ++ ";") = Validation.write sql ↔
      ¬∃ word, Validation.write sql = some (.blocked word) ∧ OnlyLast word sql) ∧
    ∀ (p : Plan) (readOnly : Bool),
      judge (sql ++ ";") p readOnly = judge sql p readOnly ↔
        ¬(Admitted (.ofSql sql) readOnly ∧
          (RowBound.hasLimit sql = false ∧ OnlyLast "where" sql ∨
            (Statement.ofSql sql).isUnbounded = true ∧ RepeatsText p sql)) := by
  refine ⟨?_, ?_, fun p readOnly => judge_semicolon_iff hfree hne⟩
  · rw [read_eq_checks, read_eq_checks]
    exact checks_semicolon_iff (fun _ h => isHead_of_isRead h)
      (fun _ h => isKeyword_of_blocked h) (fun _ h => nomatch h) hfree hne
  · rw [write_eq_checks, write_eq_checks]
    exact checks_semicolon_iff (fun _ h => isHead_of_isWrite h)
      (fun _ h => isKeyword_of_blocked (List.mem_append_right _ h)) (fun _ h => nomatch h) hfree
      hne

/-- A statement with a bound of its own is answered alike with the semicolon, also under the plan
that is made for it, which adds nothing. -/
theorem semicolon_transparent_filtered :
    let sql := "select id from users where id = 1 limit 5"
    let p := { Plan.blank with safeSql := sql }
    ';' ∉ sql.toList ∧ NotBlank sql ∧ RepeatsText p sql ∧
      (Validation.read (sql ++ ";") = Validation.read sql ∧
        Validation.write (sql ++ ";") = Validation.write sql ∧
        judge (sql ++ ";") p true = judge sql p true) := by
  intro sql p
  have hfree : ';' ∉ sql.toList := by decide
  have hne : NotBlank sql := ⟨'s', by decide, by decide⟩
  have hread : Validation.read sql = none := by decide +kernel
  have hwrite : Validation.write sql = some .notWrite := by decide +kernel
  have hlimit : RowBound.hasLimit sql = true := by decide +kernel
  have hbounded : (Statement.ofSql sql).isUnbounded = false := by decide +kernel
  obtain ⟨hr, hw, hj⟩ := semicolon_transparent_iff hfree hne
  refine ⟨hfree, hne, ⟨rfl, .inl rfl⟩, hr.2 ?_, hw.2 ?_, (hj p true).2 ?_⟩
  · rintro ⟨word, h, -⟩
    rw [hread] at h
    cases h
  · rintro ⟨word, h, -⟩
    rw [hwrite] at h
    cases h
  · rintro ⟨-, ⟨hnone, -⟩ | ⟨hunbounded, -⟩⟩
    · rw [hlimit] at hnone
      cases hnone
    · rw [hbounded] at hunbounded
      cases hunbounded

/-- A blocked word at the end is let through, a WHERE at the end is no longer seen, and a text that
is the statement itself is taken for a bounded one. -/
theorem semicolon_not_transparent :
    (Validation.read "select drop" = some (.blocked "drop") ∧
      Validation.read ("select drop" ++ ";") = none) ∧
    (Validation.write "update t set drop" = some (.blocked "drop") ∧
      Validation.write ("update t set drop" ++ ";") = none) ∧
    ((judge "select * from t where" .blank true).policy = .allow ∧
      (judge ("select * from t where" ++ ";") .blank true).policy = .unboundedRead) ∧
    let p := { Plan.blank with safeSql := "select * from users" }
    (judge "select * from users" p true).policy = .unboundedRead ∧
      (judge ("select * from users" ++ ";") p true).policy = .safeLimitApplied := by
  decide +kernel

end QueryGuard.Proofs.AddedSemicolon
