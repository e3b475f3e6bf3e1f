import QueryGuard.Proofs.LowerParts
import QueryGuard.Proofs.StatementWords

/-!
The form in which statements are examined.

A statement is made of the words of a text, each in lower case, with one space between them. They
are its tokens: no blank is in them, and made into a statement once more they stay as they are. In
this form a search for words with single spaces around them can go by the text, for it finds them
just where they follow each other among the tokens.
-/

namespace QueryGuard.Proofs.NormalForm

open Text TextRuns LowerImage LowerParts

/-- The pieces of a statement between its blanks. -/
def tokens (s : Statement) : List (List Char) := words s.text.toList

structure IsToken (w : List Char) : Prop where
  ne_nil : w ≠ []
  free : ∀ c ∈ w, isBlank c = false

instance (w : List Char) : Decidable (IsToken w) :=
  decidable_of_iff (w ≠ [] ∧ (w.all fun c => !isBlank c) = true)
    ⟨fun h => ⟨h.1, by simpa using h.2⟩, fun h => ⟨h.ne_nil, by simpa using h.free⟩⟩

/-! ### Tokens -/

lemma isToken_of_mem_words {s w : List Char} (h : w ∈ words s) : IsToken w :=
  ⟨ne_nil_of_mem_words h, fun _ hc => not_isBlank_of_mem_words h hc⟩

lemma isBlank_image {c : Char} {t : List Char} (h : IsImage c t) {d : Char} (hd : d ∈ t) :
    isBlank d = isBlank c := by
  cases hw : isWordChar c with
  | false =>
    rw [image_of_not_word h hw] at hd
    rw [List.mem_singleton.1 hd]
  | true =>
    have hword : ∀ e, isWordChar e = true → isBlank e = false := by
      intro e he
      by_contra hb
      rw [not_word_of_blank (by simpa using hb)] at he
      cases he
    rw [hword c hw, hword d (by rw [isWordChar_image h hd, hw])]

lemma IsToken.lower {w : List Char} (h : IsToken w) : IsToken (lower w) := by
  refine ⟨fun hnil => h.ne_nil ((lowered_eq_nil_iff (lowered_lower w)).2 hnil), fun d hd => ?_⟩
  obtain ⟨c, hc, image, himage, hd⟩ := exists_image_of_mem (lowered_lower w) hd
  rw [isBlank_image himage hd, h.free c hc]

section Tokens

variable {ws : List (List Char)} (hws : ∀ w ∈ ws, IsToken w)
include hws

lemma words_intercalate : words ([' '].intercalate ws) = ws := by
  have hblank : isBlank ' ' = true := by decide
  exact runs_intercalate_of_free hblank fun w hw => ⟨(hws w hw).ne_nil, (hws w hw).free⟩

lemma runs_space_intercalate : runs isSpace ([' '].intercalate ws) = ws := by
  have h := runs_space_collapse ([' '].intercalate ws)
  rwa [collapse, words_intercalate hws] at h

end Tokens

lemma text_ofSql (sql : String) :
    (Statement.ofSql sql).text.toList = [' '].intercalate ((words sql.toList).map lower) := by
  rw [Statement.toList_text_ofSql, collapse, lower_intercalate]

lemma isToken_of_mem_lowered {sql : String} {t : List Char}
    (h : t ∈ (words sql.toList).map lower) : IsToken t := by
  obtain ⟨w, hw, rfl⟩ := List.mem_map.1 h
  exact (isToken_of_mem_words hw).lower

lemma tokens_ofSql (sql : String) :
    tokens (Statement.ofSql sql) = (words sql.toList).map lower := by
  rw [tokens, text_ofSql, words_intercalate fun _ => isToken_of_mem_lowered]

/-- **Statements are in normal form.** Made into a statement, the text of a statement is the same
one. -/
lemma ofSql_text (sql : String) :
    Statement.ofSql (Statement.ofSql sql).text = Statement.ofSql sql := by
  have hwords := tokens_ofSql sql
  rw [tokens] at hwords
  rw [Statement.ofSql, collapse, hwords, ← lower_intercalate, lower_lower]
  rfl

/-! ### Search for tokens -/

/-- With spaces around, every token has one in front. -/
lemma padded_eq {ws : List (List Char)} (hne : ws ≠ []) :
    ' ' :: ([' '].intercalate ws ++ [' ']) = ws.flatMap (' ' :: ·) ++ [' '] := by
  induction ws with
  | nil => exact absurd rfl hne
  | cons w ws ih =>
    cases ws with
    | nil => simp
    | cons v ws =>
      have hrest := ih (by simp)
      rw [List.intercalate_cons_cons, List.flatMap_cons, List.append_assoc (' ' :: w), ← hrest]
      simp

/-- Tokens in spaces are found in tokens in spaces just where they follow each other. -/
theorem contains_padded_iff {ws ts : List (List Char)} (hne : ws ≠ [])
    (hws : ∀ w ∈ ws, IsToken w) (hts : ∀ t ∈ ts, IsToken t) :
    contains (' ' :: ([' '].intercalate ws ++ [' '])) (' ' :: ([' '].intercalate ts ++ [' '])) =
      true ↔ ws <:+: ts := by
  rw [contains_eq_true_iff]
  constructor
  · rintro ⟨u, v, h⟩
    -- the runs between spaces of both sides
    have hleft : runs isSpace (u ++ ' ' :: ([' '].intercalate ws ++ ' ' :: v)) =
        runs isSpace u ++ (ws ++ runs isSpace v) := by
      rw [runs_append_sep isSpace_space, runs_append_sep isSpace_space,
        runs_space_intercalate hws]
    have hright : runs isSpace (' ' :: ([' '].intercalate ts ++ [' '])) = ts := by
      rw [runs_cons_sep isSpace_space, runs_append_sep isSpace_space, runs_space_intercalate hts,
        runs_nil, List.append_nil]
    have hsame : u ++ ' ' :: ([' '].intercalate ws ++ ' ' :: v) =
        ' ' :: ([' '].intercalate ts ++ [' ']) := by
      simpa using h
    rw [hsame, hright] at hleft
    exact ⟨_, _, by rw [hleft, List.append_assoc]⟩
  · rintro ⟨a, b, rfl⟩
    have hrest : ∃ v, b.flatMap (' ' :: ·) ++ [' '] = ' ' :: v := by
      cases b with
      | nil => exact ⟨[], rfl⟩
      | cons t b => exact ⟨_, rfl⟩
    obtain ⟨v, hv⟩ := hrest
    refine ⟨a.flatMap (' ' :: ·), v, ?_⟩
    rw [padded_eq hne, padded_eq (by simp [hne]), List.flatMap_append, List.flatMap_append,
      List.append_assoc (_ ++ _) _ [' '], hv]
    simp

/-! ### Semicolons -/

lemma mem_dropLast_intercalate_iff {x : Char} (hx : x ≠ ' ') {ts : List (List Char)}
    (hts : ∀ t ∈ ts, IsToken t) : x ∈ ([' '].intercalate ts).dropLast ↔
      (∃ t ∈ ts.dropLast, x ∈ t) ∨ ∃ t ∈ ts.getLast?, x ∈ t.dropLast := by
  rcases List.eq_nil_or_concat ts with rfl | ⟨ts, t, rfl⟩
  · simp
  · rw [List.concat_eq_append] at hts ⊢
    have hne : t ≠ [] := (hts t (by simp)).ne_nil
    rw [intercalate_concat, List.dropLast_append_of_ne_nil hne]
    simp [hx]

/-- **The form of a statement.** Its text is that of its tokens with one space between them; the
tokens are the words it was made from, in lower case, and the text makes the same statement again.
Words with single spaces between them are found in it exactly when they follow each other among the
tokens. It has an inner semicolon exactly when a token other than the last has one, or the last has
one before its end. -/
theorem statement_normal (sql : String) :
    let s := Statement.ofSql sql
    s.text.toList = [' '].intercalate (tokens s) ∧ (∀ t ∈ tokens s, IsToken t) ∧
    tokens s = (words sql.toList).map lower ∧ Statement.ofSql s.text = s ∧
    (∀ ws, ws ≠ [] → (∀ w ∈ ws, IsToken w) →
      (s.hasWord (String.ofList ([' '].intercalate ws)) = true ↔ ws <:+: tokens s)) ∧
    (s.hasInnerSemicolon = true ↔
      (∃ t ∈ (tokens s).dropLast, ';' ∈ t) ∨ ∃ t ∈ (tokens s).getLast?, ';' ∈ t.dropLast) := by
  intro s
  have htext : s.text.toList = [' '].intercalate (tokens s) := by
    rw [text_ofSql, tokens_ofSql]
  have htokens : ∀ t ∈ tokens s, IsToken t := fun _ => isToken_of_mem_words
  refine ⟨htext, htokens, tokens_ofSql sql, ofSql_text sql, fun ws hne hws => ?_, ?_⟩
  · rw [Statement.hasWord, htext, String.toList_ofList, contains_padded_iff hne hws htokens]
  · rw [Statement.hasInnerSemicolon, htext, List.contains_iff_mem,
      mem_dropLast_intercalate_iff (by decide) htokens]

/-- A query with blanks of several kinds and words in both cases. -/
def listing : String := "SELECT *\n\tFROM Σίσυφος  ORDER \t BY name;"

theorem statement_normal_listing :
    ["order".toList, "by".toList] ≠ [] ∧
      (∀ w ∈ ["order".toList, "by".toList], IsToken w) ∧
      ["order".toList, "by".toList] <:+: tokens (Statement.ofSql listing) ∧
      (Statement.ofSql listing).hasWord
        (String.ofList ([' '].intercalate ["order".toList, "by".toList])) = true := by
  have hne : ["order".toList, "by".toList] ≠ [] := by simp
  have hws : ∀ w ∈ ["order".toList, "by".toList], IsToken w := by decide +kernel
  have hfollow : ["order".toList, "by".toList] <:+: tokens (Statement.ofSql listing) := by
    decide +kernel
  obtain ⟨-, -, -, -, hwords, -⟩ := statement_normal listing
  exact ⟨hne, hws, hfollow, (hwords _ hne hws).2 hfollow⟩

end QueryGuard.Proofs.NormalForm
