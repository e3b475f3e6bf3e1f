import QueryGuard.Outline.Clause
import QueryGuard.Proofs.AppendedBound
import QueryGuard.Proofs.StandingWords

/-!
The number of rows in a bound.

The outline of a text reads a number behind the word LIMIT. In a text whose bound was appended there
is one place to read it: lower case keeps every word of the body in its place, the body has no
LIMIT, and behind the appended one stand the digits of the number that was asked for.
-/

namespace QueryGuard.Proofs.BoundValue

open Text TextRuns LowerImage StatementWords StandingWords AppendedBound RowBound

/-! ### Digits -/

lemma isDecimalDigit_of_isDigit {c : Char} (h : c.isDigit = true) :
    isDecimalDigit c = true ∧ isBlank c = false :=
  ascii_induction
    (motive := fun c => c.isDigit = true → isDecimalDigit c = true ∧ isBlank c = false)
    (by decide +kernel) (toNat_lt_of_isDigit h) h

lemma foldlM_digits {s : List Char} (hs : ∀ c ∈ s, c.isDigit = true) (n : Nat) :
    s.foldlM (fun n c => (digitValue? c).map (10 * n + ·)) n =
      some (Nat.ofDigitChars 10 s n) := by
  induction s generalizing n with
  | nil => rfl
  | cons c s ih =>
    have hc : digitValue? c = some (c.toNat - '0'.toNat) := by
      simp [digitValue?, hs c (by simp)]
    rw [List.foldlM_cons, hc, Nat.ofDigitChars_cons]
    exact ih (fun d hd => hs d (by simp [hd])) _

section Digits

variable (n : Nat)

lemma isDigit_toDigits : ∀ c ∈ Nat.toDigits 10 n, c.isDigit = true :=
  fun _ hc => Nat.isDigit_of_mem_toDigits (by omega) (by omega) hc

/-- Digits that were written are read back. -/
lemma natOfDigits?_toDigits : natOfDigits? (Nat.toDigits 10 n) = some n := by
  unfold natOfDigits?
  split
  · rename_i h
    exact absurd h Nat.toDigits_ne_nil
  · rw [foldlM_digits (isDigit_toDigits n), Nat.ofDigitChars_ten_toDigits]

lemma map_toLower_toDigits : (Nat.toDigits 10 n).map Char.toLower = Nat.toDigits 10 n := by
  calc (Nat.toDigits 10 n).map Char.toLower
      = (Nat.toDigits 10 n).map id :=
        List.map_congr_left fun c hc => toLower_of_isDigit (isDigit_toDigits n c hc)
    _ = Nat.toDigits 10 n := List.map_id _

/-- Digits behind a space are read up to the first sign that is none. -/
lemma digits_read {r : List Char} (hr : ∀ c ∈ r.head?, isDecimalDigit c = false) :
    (blanks? (' ' :: (Nat.toDigits 10 n ++ r))).bind (run? isDecimalDigit) =
      some (Nat.toDigits 10 n, r) := by
  have hdigits := isDigit_toDigits n
  have hblank : ∀ c ∈ (Nat.toDigits 10 n ++ r).head?, isBlank c = false := by
    intro c hc
    rw [List.head?_append_of_ne_nil _ Nat.toDigits_ne_nil] at hc
    exact (isDecimalDigit_of_isDigit (hdigits c (List.mem_of_mem_head? hc))).2
  have hspace : blanks? ([' '] ++ (Nat.toDigits 10 n ++ r)) = some (Nat.toDigits 10 n ++ r) :=
    blanks?_append (by simp) (List.forall_mem_singleton.2 (by decide)) hblank
  have hdecimal : ∀ d ∈ Nat.toDigits 10 n, isDecimalDigit d = true :=
    fun d hd => (isDecimalDigit_of_isDigit (hdigits d hd)).1
  rw [List.singleton_append] at hspace
  rw [hspace, Option.bind_some, run?_append Nat.toDigits_ne_nil hdecimal hr]

end Digits

/-! ### The appended bound -/

variable {sql : String}

/-- The terminator is not changed by lower case, and no digit begins it. -/
lemma terminator_plain (sql : String) :
    (splitTerminator sql).2.toList.map Char.toLower = (splitTerminator sql).2.toList ∧
      (∀ c ∈ (splitTerminator sql).2.toList, c.toNat < 0x80) ∧
        ∀ c ∈ (splitTerminator sql).2.toList.head?, isDecimalDigit c = false := by
  rcases (Terminator.splitTerminator_spec sql).2 with ht | ⟨ht, -⟩
  · have hsemi : (";" : String).toList = [';'] := by decide
    rw [ht, hsemi]
    refine ⟨by decide, fun c hc => ?_, fun c hc => ?_⟩
    · rw [List.mem_singleton.1 hc]
      decide
    · obtain rfl : ';' = c := by simpa using hc
      decide +kernel
  · rw [ht]
    exact ⟨rfl, fun c hc => absurd hc List.not_mem_nil, fun c hc => nomatch hc⟩

lemma ascii_number (sql : String) (rows : Nat) :
    Ascii (Nat.toDigits 10 rows ++ (splitTerminator sql).2.toList) := by
  intro c hc
  rcases List.mem_append.1 hc with hc | hc
  · exact toNat_lt_of_isDigit (isDigit_toDigits rows c hc)
  · exact (terminator_plain sql).2.1 c hc

/-- The lower case of a text whose bound was appended: the body's, and the clause in small
letters. -/
lemma exists_lower_bound (h : hasLimit sql = false) (rows : Nat) :
    ∃ body, Lowered (splitTerminator sql).1.toList body ∧
      lower (bound sql rows).1.toList = body ++ ' ' :: (keyword ++
        ' ' :: (Nat.toDigits 10 rows ++ (splitTerminator sql).2.toList)) := by
  have hword : IsKeyword "LIMIT".toList := by decide +kernel
  have hspace : (' ').toNat < 0x80 := by decide
  have hclause : Ascii (' ' :: ("LIMIT".toList ++
      ' ' :: (Nat.toDigits 10 rows ++ (splitTerminator sql).2.toList))) := by
    intro c hc
    rcases List.mem_cons.1 hc with rfl | hc
    · exact hspace
    · rcases List.mem_append.1 hc with hc | hc
      · exact hword.ascii c hc
      · rcases List.mem_cons.1 hc with rfl | hc
        · exact hspace
        · exact ascii_number sql rows c hc
  have hlower := lowered_lower (bound sql rows).1.toList
  rw [toList_bound_cut h] at hlower ⊢
  obtain ⟨body, rest, hlow, hbody, hrest⟩ := lowered_append hlower
  refine ⟨body, hbody, ?_⟩
  have hkeyword : "LIMIT".toList.map Char.toLower = keyword := by decide
  rw [hlow, eq_map_toLower_of_lowered hrest hclause]
  simp only [List.map_cons, List.map_append, hkeyword, map_toLower_toDigits,
    (terminator_plain sql).1, show ' '.toLower = ' ' by decide]

lemma standing_body (h : hasLimit sql = false) {body : List Char}
    (hbody : Lowered (splitTerminator sql).1.toList body) : standing keyword false body = [] := by
  have hnone : keyword ∉ runs isWordEnd body := by
    rw [mem_lowered_iff (runs_lowered not_word_of_isWordEnd hbody) isKeyword_limit.ascii,
      ← hasLimit_iff, hasLimit_body, h]
    simp
  rw [← standing_isEmpty_iff isKeyword_limit.ne_nil isKeyword_limit.letters] at hnone
  simpa using hnone

/-- **The number of an appended bound** is the number of rows that was asked for, as far as 64 bits
hold it. -/
theorem limit_bound (h : hasLimit sql = false) (rows : Nat) :
    Clause.limit (lowerCase (bound sql rows).1) =
      if rows < Decimal.words64 then some rows else none := by
  obtain ⟨body, hbody, hlow⟩ := exists_lower_bound h rows
  have hend : isWordEnd ' ' = true := isWordEnd_of_isBlank _ (by decide)
  have hself : standing keyword false keyword = [[]] := by decide +kernel
  have hstand := standing_append_sep isKeyword_limit.letters hend isKeyword_limit.ne_nil false
  unfold Clause.limit
  rw [toList_lowerCase, hlow, show "limit".toList = keyword from rfl, hstand, hstand,
    standing_body h hbody, hself]
  simp only [List.map_nil, List.nil_append, List.map_cons, List.cons_append,
    List.findSome?_cons, digits_read rows (terminator_plain sql).2.2, Option.bind_eq_bind,
    Option.bind_some, natOfDigits?_toDigits]

end QueryGuard.Proofs.BoundValue
