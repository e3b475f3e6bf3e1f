import QueryGuard.Proofs.BoundValue
import QueryGuard.Proofs.ExposedBound

/-!
Bounding a text, and bounding it again.

A text that has a bound is left alone, so a second bound changes nothing. A text that has none gets
one: its body, the clause and its terminator make up the result, and the word LIMIT stands in it
just behind the body and nowhere else. There the number of rows is read back as it was written.
-/

namespace QueryGuard.Proofs.BoundOnce

open Text TextRuns LowerImage StatementWords StandingWords Terminator AppendedBound ExposedBound
open BoundValue RowBound

/-- What appending a bound of so many rows makes of a text. -/
structure BoundAdded (sql : String) (rows : Nat) (out : String) : Prop where
  cut : trimEnd sql.toList = (splitTerminator sql).1.toList ++ (splitTerminator sql).2.toList
  terminator : (splitTerminator sql).2 = ";" ∨
    (splitTerminator sql).2 = "" ∧ (splitTerminator sql).1.toList.getLast? ≠ some ';'
  text : out = (splitTerminator sql).1 ++ " LIMIT " ++ toString rows ++ (splitTerminator sql).2
  once : ∃! place : List Char × List Char, WordAt keyword place.1 place.2 out.toList
  value : Clause.limit (lowerCase out) = some rows

variable {sql : String}

lemma not_wordAt_body (h : hasLimit sql = false) {u v : List Char} :
    ¬WordAt keyword u v (splitTerminator sql).1.toList :=
  not_wordAt_of_hasLimit (by rw [hasLimit_body, h])

/-- The clause is cut off on both sides of its word: nothing that the body ends with, and no digit
behind it, can be part of the word. -/
lemma wordAt_bound_iff (h : hasLimit sql = false) (rows : Nat) {u v : List Char} :
    WordAt keyword u v (bound sql rows).1.toList ↔
      u = (splitTerminator sql).1.toList ++ [' '] ∧
        v = ' ' :: (Nat.toDigits 10 rows ++ (splitTerminator sql).2.toList) := by
  have hend : isWordEnd ' ' = true := isWordEnd_of_isBlank _ (by decide)
  have hself : lower "LIMIT".toList = keyword := by decide +kernel
  rw [toList_bound_cut h]
  simp only [wordAt_append_iff isKeyword_limit hend, wordAt_self_iff isKeyword_limit hself,
    not_wordAt_body h, not_wordAt_number rows sql]
  constructor
  · rintro (⟨-, -, hfalse⟩ | ⟨u', rfl, ⟨v', rfl, rfl, rfl⟩ | ⟨-, -, hfalse⟩⟩)
    · exact hfalse.elim
    · exact ⟨rfl, rfl⟩
    · exact hfalse.elim
  · rintro ⟨rfl, rfl⟩
    exact .inr ⟨[], rfl, .inl ⟨[], rfl, rfl, rfl⟩⟩

theorem boundAdded_of_not_hasLimit (h : hasLimit sql = false) {rows : Nat}
    (hrows : rows < Decimal.words64) : BoundAdded sql rows (bound sql rows).1 where
  cut := (splitTerminator_spec sql).1
  terminator := (splitTerminator_spec sql).2
  text := by
    rw [bound, if_neg (by simp [h])]
  once := ⟨(_, _), (wordAt_bound_iff h rows).2 ⟨rfl, rfl⟩, fun _ hplace =>
    Prod.ext_iff.2 ((wordAt_bound_iff h rows).1 hplace)⟩
  value := by
    rw [limit_bound h, if_pos hrows]

/-- **Bounding a text.** The result has a bound, which is added exactly where the text has none: the
text is then cut before its terminator, the clause goes in between, and the number behind the only
LIMIT is the one that was asked for. A text that has a bound is left as it is, and so is the result
by every further bound. -/
theorem bound_once (sql : String) (n m : UInt64) :
    let bounded := bound sql n.toNat
    hasLimit bounded.1 = true ∧ (bounded.2 = true ↔ hasLimit sql = false) ∧
      (bounded.2 = false ∧ bounded.1 = sql ∨
        bounded.2 = true ∧ BoundAdded sql n.toNat bounded.1) ∧
      bound bounded.1 m.toNat = (bounded.1, false) := by
  intro bounded
  have hadded : bounded.2 = !hasLimit sql := snd_bound sql n.toNat
  have hout : hasLimit bounded.1 = true := hasLimit_bound sql n.toNat
  have hagain : bound bounded.1 m.toNat = (bounded.1, false) := bound_of_hasLimit hout m.toNat
  refine ⟨hout, by simp [hadded], ?_, hagain⟩
  cases h : hasLimit sql with
  | true =>
    have hsame : bounded = (sql, false) := bound_of_hasLimit h n.toNat
    exact .inl ⟨by rw [hsame], by rw [hsame]⟩
  | false =>
    have hfits : n.toNat < Decimal.words64 := n.toNat_lt
    exact .inr ⟨by simp [hadded, h], boundAdded_of_not_hasLimit h hfits⟩

end QueryGuard.Proofs.BoundOnce
