import QueryGuard.Proofs.AppendedBound
import QueryGuard.Proofs.StandingWords
import QueryGuard.Validation

/-!
Bounds that a database sees.

Comments and quoted texts hide what stands in them. A text is read from left to right; the region
that has been reached tells whether the next sign is hidden. A bound that is appended is seen
exactly when the body before it ends outside comments and quotes, since nothing in the clause leaves
a region. A bound that the text has is seen where it stands outside.
-/

namespace QueryGuard.Proofs.ExposedBound

open Text TextRuns LowerImage StatementWords StandingWords AppendedBound RowBound

/-! ### Regions -/

/-- What has been entered and not left. A hyphen, a slash, or the asterisk of a comment is kept in
mind for the sign that comes next. -/
inductive Region where
  | plain
  | hyphen
  | slash
  | lineComment
  | blockComment
  | asterisk
  | singleQuoted
  | doubleQuoted
deriving DecidableEq

namespace Region

def enter (c : Char) : Region :=
  if c = '-' then hyphen
  else if c = '/' then slash
  else if c = '\x27' then singleQuoted
  else if c = '"' then doubleQuoted
  else plain

/-- A quote that is written twice leaves its region and enters it again at once. -/
def step : Region → Char → Region
  | plain, c => enter c
  | hyphen, c => if c = '-' then lineComment else enter c
  | slash, c => if c = '*' then blockComment else enter c
  | lineComment, c => if c = '\n' then plain else lineComment
  | blockComment, c => if c = '*' then asterisk else blockComment
  | asterisk, c => if c = '/' then plain else if c = '*' then asterisk else blockComment
  | singleQuoted, c => if c = '\x27' then plain else singleQuoted
  | doubleQuoted, c => if c = '"' then plain else doubleQuoted

def isOutside : Region → Bool
  | plain | hyphen | slash => true
  | lineComment | blockComment | asterisk | singleQuoted | doubleQuoted => false

def after (g : Region) (s : List Char) : Region := s.foldl step g

@[simp] lemma after_cons (g : Region) (c : Char) (s : List Char) :
    g.after (c :: s) = (g.step c).after s := rfl

lemma after_append (g : Region) (s t : List Char) : g.after (s ++ t) = (g.after s).after t := by
  simp [after, List.foldl_append]

@[simp] lemma isOutside_step_space (g : Region) : (g.step ' ').isOutside = g.isOutside := by
  cases g <;> rfl

end Region

/-! ### Exposed bounds -/

/-- The word LIMIT stands in `s`, outside comments and quotes when `s` is read from `g` on. Letters
enter no region, so the word is outside as a whole if it begins outside. -/
def ExposedFrom (g : Region) (s : List Char) : Prop :=
  ∃ u v, WordAt keyword u v s ∧ (g.after u).isOutside = true

/-- The word LIMIT stands in the text outside comments and quotes. -/
def Exposed (sql : String) : Prop := ExposedFrom .plain sql.toList

variable {g : Region} {s r : List Char}

lemma exposedFrom_append_iff {c : Char} (hc : isWordEnd c = true) :
    ExposedFrom g (s ++ c :: r) ↔
      ExposedFrom g s ∨ ExposedFrom ((g.after s).step c) r := by
  unfold ExposedFrom
  simp only [wordAt_append_iff isKeyword_limit hc]
  constructor
  · rintro ⟨u, v, ⟨v', rfl, h⟩ | ⟨u', rfl, h⟩, hg⟩
    · exact .inl ⟨u, v', h, hg⟩
    · rw [Region.after_append, Region.after_cons] at hg
      exact .inr ⟨u', v, h, hg⟩
  · rintro (⟨u, v, h, hg⟩ | ⟨u, v, h, hg⟩)
    · exact ⟨u, _, .inl ⟨v, rfl, h⟩, hg⟩
    · refine ⟨_, v, .inr ⟨u, rfl, h⟩, ?_⟩
      rwa [Region.after_append, Region.after_cons]

/-- The word by itself is exposed where it is read outside. -/
lemma exposedFrom_limit_iff : ExposedFrom g "LIMIT".toList ↔ g.isOutside = true := by
  have hself : lower "LIMIT".toList = keyword := by decide +kernel
  simp only [ExposedFrom, wordAt_self_iff isKeyword_limit hself]
  constructor
  · rintro ⟨u, v, ⟨rfl, rfl⟩, hg⟩
    exact hg
  · intro hg
    exact ⟨[], [], ⟨rfl, rfl⟩, hg⟩

lemma exists_asciiLower_of_wordAt {w u v : List Char} (hw : IsKeyword w) (h : WordAt w u v s)
    {d : Char} (hd : d ∈ w) : ∃ c ∈ s, asciiLower c = some d := by
  obtain ⟨t, rfl, ht, -, -⟩ := h
  rw [lower_eq_iff hw.ascii] at ht
  have hm : some d ∈ t.map asciiLower := by
    rw [ht]
    exact List.mem_map_of_mem hd
  obtain ⟨c, hc, hcd⟩ := List.mem_map.1 hm
  exact ⟨c, by simp [hc], hcd⟩

/-- Number and terminator have no letters. -/
lemma not_wordAt_number (rows : Nat) (sql : String) {u v : List Char} :
    ¬WordAt keyword u v (Nat.toDigits 10 rows ++ (splitTerminator sql).2.toList) := by
  intro h
  obtain ⟨c, hc, hl⟩ :=
    exists_asciiLower_of_wordAt isKeyword_limit h (d := 'l') (by decide)
  rcases List.mem_append.1 hc with hc | hc
  · have hd := Nat.isDigit_of_mem_toDigits (by omega) (by omega) hc
    have hself : asciiLower c = some c := by
      simp [asciiLower, toNat_lt_of_isDigit hd, toLower_of_isDigit hd]
    obtain rfl : c = 'l' := by simpa [hself] using hl
    revert hd
    decide
  · rcases (Terminator.splitTerminator_spec sql).2 with ht | ⟨ht, -⟩
    · obtain rfl : c = ';' := by simpa [ht] using hc
      revert hl
      decide
    · simp [ht] at hc

lemma not_exposedFrom_number (rows : Nat) (sql : String) :
    ¬ExposedFrom g (Nat.toDigits 10 rows ++ (splitTerminator sql).2.toList) := by
  rintro ⟨u, v, h, -⟩
  exact not_wordAt_number rows sql h

lemma not_exposedFrom_of_hasLimit {sql : String} (h : hasLimit sql = false) :
    ¬ExposedFrom g sql.toList := by
  rintro ⟨u, v, hw, -⟩
  exact not_wordAt_of_hasLimit h hw

/-- A bound that is appended is seen exactly when the body ends outside comments and quotes. -/
lemma exposed_bound_of_not_hasLimit {sql : String} (h : hasLimit sql = false) (rows : Nat) :
    Exposed (bound sql rows).1 ↔
      (Region.plain.after (splitTerminator sql).1.toList).isOutside = true := by
  have hend : isWordEnd ' ' = true := isWordEnd_of_isBlank _ (by decide)
  have hbody : ¬ExposedFrom .plain (splitTerminator sql).1.toList :=
    not_exposedFrom_of_hasLimit (by rw [hasLimit_body, h])
  unfold Exposed
  rw [toList_bound_cut h, exposedFrom_append_iff hend, exposedFrom_append_iff hend,
    exposedFrom_limit_iff, or_iff_right hbody, or_iff_left (not_exposedFrom_number rows sql),
    Region.isOutside_step_space]

/-- **Bounds that are seen.** After appending, the word LIMIT stands outside comments and quotes
exactly when it did before, or when the text had none and its body ends outside. -/
theorem exposed_bound_iff (sql : String) (rows : Nat) :
    Exposed (bound sql rows).1 ↔
      Exposed sql ∨ hasLimit sql = false ∧
        (Region.plain.after (splitTerminator sql).1.toList).isOutside = true := by
  cases h : hasLimit sql with
  | true => simp [bound_of_hasLimit h]
  | false =>
    have hnone : ¬Exposed sql := not_exposedFrom_of_hasLimit h
    rw [exposed_bound_of_not_hasLimit h, or_iff_right hnone]
    simp

/-! ### Bounds that are not seen -/

/-- The places of a text can be tried one after the other. -/
lemma exposedFrom_iff_exists_place :
    ExposedFrom g s ↔ ∃ n ∈ List.range (s.length + 1),
      lower ((s.drop n).take keyword.length) = keyword ∧
        (s.take n).getLast?.all isWordEnd = true ∧
          (s.drop (n + keyword.length)).head?.all isWordEnd = true ∧
            (g.after (s.take n)).isOutside = true := by
  simp only [Option.all_eq_true]
  constructor
  · rintro ⟨u, v, ⟨t, rfl, ht, hu, hv⟩, hg⟩
    have hlen := congrArg List.length ((lower_eq_iff isKeyword_limit.ascii).1 ht)
    simp only [List.length_map] at hlen
    have hrange : u.length < (u ++ t ++ v).length + 1 := by
      rw [List.append_assoc, List.length_append]
      omega
    refine ⟨u.length, List.mem_range.2 hrange, ?_, ?_, ?_, ?_⟩
    · simpa [hlen] using ht
    · simpa using hu
    · simpa [← hlen] using hv
    · simpa using hg
  · rintro ⟨n, -, ht, hu, hv, hg⟩
    refine ⟨s.take n, s.drop (n + keyword.length), ⟨_, ?_, ht, hu, hv⟩, hg⟩
    rw [List.append_assoc, ← List.drop_drop, List.take_append_drop, List.take_append_drop]

instance (g : Region) (s : List Char) : Decidable (ExposedFrom g s) :=
  decidable_of_iff _ exposedFrom_iff_exists_place.symm

instance (sql : String) : Decidable (Exposed sql) := inferInstanceAs (Decidable (ExposedFrom _ _))

/-- A comment at the end swallows the bound, also when a line break ends the comment: blanks at the
end are not kept. A LIMIT in a literal, in a quoted name or in a comment keeps the bound away. -/
theorem bound_unseen :
    (∀ sql ∈ ["SELECT * FROM users -- all", "SELECT * FROM users -- all\n",
        "SELECT * FROM users /* all"],
      Validation.read sql = none ∧ (bound sql 5).2 = true ∧ ¬Exposed (bound sql 5).1) ∧
    ∀ sql ∈ ["SELECT 'no limit' FROM users", "SELECT \"limit\" FROM users",
        "SELECT * FROM users -- no limit"],
      Validation.read sql = none ∧ bound sql 5 = (sql, false) ∧ ¬Exposed sql := by
  decide +kernel

end QueryGuard.Proofs.ExposedBound
