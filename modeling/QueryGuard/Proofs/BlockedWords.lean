import QueryGuard.Proofs.StatementHead
import QueryGuard.Proofs.Terminator
import QueryGuard.Validation

/-!
Which texts are accepted, and what is left of the blocked words in them.

The validators look for a blocked word between the spaces of the normalised statement. Read off
the text, this is a word between blanks or ends of the text; a semicolon in front of it need not be
told apart, for an accepted text has none there. So acceptance is characterised exactly: the right
head, a single statement, and no blocked word with blanks around it.

A parenthesis or a comma beside the word, or a semicolon behind it, hides it.
-/

namespace QueryGuard.Proofs.BlockedWords

open Text TextRuns LowerImage StatementWords StatementHead Terminator

/-- The word, in some letter case, has the start of the text or a character with `p` before it,
and the end of the text or a character with `q` behind it. -/
def Stands (p q : Char → Bool) (word sql : String) : Prop :=
  ∃ u t v, sql.toList = u ++ t ++ v ∧ lower t = word.toList ∧
    (∀ c ∈ u.getLast?, p c = true) ∧ ∀ c ∈ v.head?, q c = true

/-- What ends a token of SQL, among other signs. -/
def isTokenEnd (c : Char) : Bool := isBreak c || ['(', ')', ','].contains c

variable {word : String}

/-! ### Words between blanks -/

lemma mem_words_iff {t : List Char} (hne : t ≠ []) (ht : ∀ c ∈ t, isBlank c = false)
    (s : List Char) : t ∈ words s ↔ Delimited isBlank t s := by
  rw [words_eq_runs, mem_runs, mem_splitWhere_iff ht]
  exact and_iff_left hne

lemma hasWord_iff_stands (hw : IsKeyword word.toList) (sql : String) :
    (Statement.ofSql sql).hasWord word = true ↔ Stands isBlank isBlank word sql := by
  rw [hasWord_ofSql_iff hw]
  constructor
  · rintro ⟨t, ht, hlow⟩
    have hd := mem_words_iff (hw.ne_nil_of_lower hlow) (hw.not_blank_of_lower hlow) sql.toList
    obtain ⟨u, v, hs, hu, hv⟩ := hd.1 ht
    exact ⟨u, t, v, hs, hlow, hu, hv⟩
  · rintro ⟨u, t, v, hs, hlow, hu, hv⟩
    refine ⟨t, ?_, hlow⟩
    rw [mem_words_iff (hw.ne_nil_of_lower hlow) (hw.not_blank_of_lower hlow)]
    exact ⟨u, v, hs, hu, hv⟩

/-- In a single statement nothing but blanks stands behind a semicolon. -/
lemma not_semicolon_before {sql : String} (h : OneStatement sql) {u t v : List Char}
    (hs : sql.toList = u ++ t ++ v) (hne : t ≠ []) (ht : ∀ c ∈ t, isBlank c = false) :
    ';' ∉ u.getLast? := by
  intro hu
  obtain ⟨y, rfl⟩ := List.getLast?_eq_some_iff.1 hu
  obtain ⟨c, t, rfl⟩ := List.exists_cons_of_ne_nil hne
  have hblank : isBlank ';' = false := by decide
  refine h ((mem_dropLast_trimEnd_iff hblank _).2 ?_)
  rw [hs]
  simp [List.filter_append, hblank, ht c (by simp)]

/-- In a single statement a semicolon before the word makes no difference. -/
lemma stands_isBreak_iff (hw : IsKeyword word.toList) {sql : String} (h : OneStatement sql) :
    Stands isBreak isBlank word sql ↔ Stands isBlank isBlank word sql := by
  refine exists_congr fun u => exists_congr fun t => exists_congr fun v => ?_
  refine and_congr_right fun hs => and_congr_right fun hlow => and_congr_left fun _ => ?_
  have hu := not_semicolon_before h hs (hw.ne_nil_of_lower hlow) (hw.not_blank_of_lower hlow)
  refine forall₂_congr fun c hc => ?_
  have hne : c ≠ ';' := by
    rintro rfl
    exact hu hc
  simp [isBreak, hne]

/-! ### Acceptance -/

lemma isKeyword_of_blocked (h : word ∈ Validation.blockedInRead) : IsKeyword word.toList := by
  have h' : ∀ word ∈ Validation.blockedInRead, IsKeyword word.toList := by
    decide +kernel
  exact h' word h

lemma common_eq_none_iff {blocked : List String}
    (hb : ∀ word ∈ blocked, IsKeyword word.toList) (sql : String) :
    Validation.common (Statement.ofSql sql) blocked = none ↔
      OneStatement sql ∧ ∀ word ∈ blocked, ¬Stands isBreak isBlank word sql := by
  unfold Validation.common
  by_cases h : OneStatement sql
  · rw [(oneStatement_iff sql).1 h]
    simp only [Bool.false_eq_true, if_false, Option.map_eq_none_iff, List.find?_eq_none, h,
      true_and]
    refine forall₂_congr fun word hm => ?_
    rw [hasWord_iff_stands (hb word hm), stands_isBreak_iff (hb word hm) h]
  · have hi : (Statement.ofSql sql).hasInnerSemicolon = true := by
      rw [oneStatement_iff] at h
      simpa using h
    simp [hi, h]

lemma isEmpty_of_startsWithAny {s : Statement} {heads : List String}
    (hh : ∀ head ∈ heads, IsHead head) (h : s.startsWithAny heads = true) :
    s.isEmpty = false := by
  unfold Statement.startsWithAny at h
  obtain ⟨head, hm, hp⟩ := List.any_eq_true.1 h
  unfold Statement.isEmpty
  rw [List.isPrefixOf_iff_prefix] at hp
  cases hs : s.text.toList with
  | nil =>
    rw [hs, List.prefix_nil] at hp
    exact absurd hp (hh head hm).ne_nil
  | cons c t => rfl

/-- The checks of both validators: a statement with a head is not empty, so the head and the
common checks decide. -/
lemma checks_eq_none_iff {heads blocked : List String} (hh : ∀ head ∈ heads, IsHead head)
    (hb : ∀ word ∈ blocked, IsKeyword word.toList) (refusal : Refusal) (sql : String) :
    (if (Statement.ofSql sql).isEmpty then some .empty
      else if !(Statement.ofSql sql).startsWithAny heads then some refusal
      else Validation.common (Statement.ofSql sql) blocked) = none ↔
    (Statement.ofSql sql).startsWithAny heads = true ∧ OneStatement sql ∧
      ∀ word ∈ blocked, ¬Stands isBreak isBlank word sql := by
  rw [← common_eq_none_iff hb]
  by_cases hs : (Statement.ofSql sql).startsWithAny heads = true
  · have he := isEmpty_of_startsWithAny hh hs
    simp [hs, he]
  · by_cases he : (Statement.ofSql sql).isEmpty = true <;> simp [hs, he]

lemma read_eq_none_iff (sql : String) :
    Validation.read sql = none ↔
      (Statement.ofSql sql).isRead = true ∧ OneStatement sql ∧
        ∀ word ∈ Validation.blockedInRead, ¬Stands isBreak isBlank word sql :=
  checks_eq_none_iff (fun _ h => isHead_of_isRead h) (fun _ h => isKeyword_of_blocked h)
    .notRead sql

lemma write_eq_none_iff (sql : String) :
    Validation.write sql = none ↔
      (Statement.ofSql sql).isWrite = true ∧ OneStatement sql ∧
        ∀ word ∈ Validation.blockedInWrite, ¬Stands isBreak isBlank word sql :=
  checks_eq_none_iff (fun _ h => isHead_of_isWrite h)
    (fun _ h => isKeyword_of_blocked (List.mem_append_right _ h)) .notWrite sql

/-- **Acceptance.** A text is accepted as a read, or as a write, exactly when it begins with one of
the heads, is a single statement, and has no blocked word in any letter case that stands behind the
start, a blank or a semicolon and in front of a blank or the end. -/
theorem accepted_iff (sql : String) :
    (Validation.read sql = none ↔
      (∃ head ∈ ["select", "with"], Begins head sql.toList) ∧ OneStatement sql ∧
        ∀ word ∈ Validation.blockedInRead, ¬Stands isBreak isBlank word sql) ∧
    (Validation.write sql = none ↔
      (∃ head ∈ ["insert", "update", "delete"], Begins head sql.toList) ∧ OneStatement sql ∧
        ∀ word ∈ Validation.blockedInWrite, ¬Stands isBreak isBlank word sql) := by
  rw [read_eq_none_iff, write_eq_none_iff, isRead_ofSql_iff, isWrite_ofSql_iff]
  exact ⟨Iff.rfl, Iff.rfl⟩

/-! ### What is not seen -/

/-- The place where a word stands, given by the texts around it. -/
lemma stands_of_place {p q : Char → Bool} {sql : String} (u t v : List Char)
    (hs : sql.toList = u ++ t ++ v) (ht : lower t = word.toList)
    (hu : u.getLast?.all p = true) (hv : v.head?.all q = true) : Stands p q word sql := by
  rw [Option.all_eq_true] at hu hv
  exact ⟨u, t, v, hs, ht, hu, hv⟩

lemma unseen_behind {c : Char} (hc : c ∈ ['(', ')', ',']) :
    ∃ sql, Validation.read sql = none ∧ Stands (· == c) isBlank "drop" sql := by
  refine ⟨String.ofList ("select 1".toList ++ [c] ++ "drop".toList ++ " from t".toList), ?_, ?_⟩
  · simp only [List.mem_cons, List.not_mem_nil, or_false] at hc
    rcases hc with rfl | rfl | rfl <;> decide +kernel
  · refine stands_of_place _ _ _ String.toList_ofList (by decide +kernel) ?_ (by decide)
    simp

lemma unseen_before {c : Char} (hc : c ∈ ['(', ')', ',', ';']) :
    ∃ sql, Validation.read sql = none ∧ Stands isBlank (· == c) "drop" sql := by
  refine ⟨String.ofList ("select ".toList ++ "drop".toList ++ [c]), ?_, ?_⟩
  · simp only [List.mem_cons, List.not_mem_nil, or_false] at hc
    rcases hc with rfl | rfl | rfl | rfl <;> decide +kernel
  · refine stands_of_place _ _ _ String.toList_ofList (by decide +kernel) (by decide) ?_
    simp

/-- **What is not seen.** A DELETE in a common table expression is read, and a DROP behind a
parenthesis is written. Each of the signs that end a token hides a word next to it, the semicolon
only when it comes behind the word. -/
theorem blocked_word_unseen :
    (Validation.read "WITH x AS (DELETE FROM t RETURNING id) SELECT * FROM x" = none ∧
      Stands isTokenEnd isTokenEnd "delete"
        "WITH x AS (DELETE FROM t RETURNING id) SELECT * FROM x") ∧
    (Validation.write "update t set a=(drop" = none ∧
      Stands isTokenEnd isTokenEnd "drop" "update t set a=(drop") ∧
    (∀ c ∈ ['(', ')', ','], ∃ sql,
      Validation.read sql = none ∧ Stands (· == c) isBlank "drop" sql) ∧
    ∀ c ∈ ['(', ')', ',', ';'], ∃ sql,
      Validation.read sql = none ∧ Stands isBlank (· == c) "drop" sql := by
  refine ⟨⟨by decide +kernel, ?_⟩, ⟨by decide +kernel, ?_⟩, fun _ => unseen_behind,
    fun _ => unseen_before⟩
  · exact stands_of_place "WITH x AS (".toList "DELETE".toList
      " FROM t RETURNING id) SELECT * FROM x".toList (by decide) (by decide +kernel) (by decide)
      (by decide)
  · exact stands_of_place "update t set a=(".toList "drop".toList [] (by decide)
      (by decide +kernel) (by decide) (by decide)

end QueryGuard.Proofs.BlockedWords
