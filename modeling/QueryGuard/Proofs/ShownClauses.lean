import QueryGuard.Proofs.BoundValue
import QueryGuard.Proofs.ClauseBodies
import QueryGuard.Proofs.NamedTables

/-!
Clauses where they are shown.

A clause is written as a space, its keyword, a space and its body, or it is absent. When its keyword
occurs no more often than the clause shows it, the text in front of the clause has no place where
the keyword begins, so the clause is opened there and nowhere else, and its body goes on to the next
clause that is present.
-/

namespace QueryGuard.Proofs.ShownClauses

open Text TextRuns Places ClauseBodies Clause
open NamedTables (Cut not_word_space)

/-- A clause, if there is one. -/
def clauseText (keyword : String) : Option String → String
  | none => ""
  | some body => " " ++ keyword ++ " " ++ body

/-- The body of a clause that lists items, if there are any. -/
def listing? (parts : List String) : Option String :=
  if parts = [] then none else some (", ".intercalate parts)

/-- Not empty, with no blanks around it, and in lower case. -/
structure IsPart (s : String) : Prop where
  ne_empty : s ≠ ""
  trimmed : trim s.toList = s.toList
  low : lowerCase s = s

instance (s : String) : Decidable (IsPart s) :=
  decidable_of_iff (s ≠ "" ∧ trim s.toList = s.toList ∧ lowerCase s = s)
    ⟨fun ⟨hne, htrim, hlow⟩ => ⟨hne, htrim, hlow⟩, fun ⟨hne, htrim, hlow⟩ => ⟨hne, htrim, hlow⟩⟩

/-! ### Keywords where they are shown -/

/-- The keyword with a space behind it bears the mark. -/
def Marks (mark : Mark) (keyword : String) : Prop :=
  ∀ s, mark false (keyword.toList ++ ' ' :: s) = true

lemma marks_wordMark (word : String) : Marks (wordMark word) word :=
  fun s => List.isPrefixOf_iff_prefix.2 (List.prefix_append word.toList (' ' :: s))

lemma marks_aloneMark (word : String) : Marks (aloneMark word) word := by
  intro s
  have hprefix : word.toList.isPrefixOf (word.toList ++ ' ' :: s) = true := marks_wordMark word s
  rw [aloneMark, hprefix, ← String.length_toList, List.drop_left]
  simp [not_word_space]

section Or

variable {mark other : Mark} {keyword : String}

lemma Marks.or_left (h : Marks mark keyword) :
    Marks (fun b s => mark b s || other b s) keyword := by
  intro s
  simp [h s]

lemma Marks.or_right (h : Marks other keyword) :
    Marks (fun b s => mark b s || other b s) keyword := by
  intro s
  simp [h s]

end Or

/-- A pair of words that begin with no blank. -/
structure IsPair (first second keyword : String) : Prop where
  text : keyword.toList = first.toList ++ ' ' :: second.toList
  head : ∀ s, ∀ c ∈ (second.toList ++ s).head?, isBlank c = false

lemma isPair_of_head {first second keyword : String}
    (htext : keyword.toList = first.toList ++ ' ' :: second.toList) {c : Char} {s : List Char}
    (hsecond : second.toList = c :: s) (hc : isBlank c = false) : IsPair first second keyword := by
  refine ⟨htext, fun s d hd => ?_⟩
  rw [hsecond] at hd
  cases hd
  exact hc

lemma isPair_group : IsPair "group" "by" "group by" :=
  isPair_of_head (by decide) (c := 'b') (s := ['y']) (by decide) (by decide)

lemma isPair_order : IsPair "order" "by" "order by" :=
  isPair_of_head (by decide) (c := 'b') (s := ['y']) (by decide) (by decide)

lemma blanks?_space {s : List Char} (hs : ∀ c ∈ s.head?, isBlank c = false) :
    blanks? (' ' :: s) = some s :=
  blanks?_append (b := [' ']) (by simp) (List.forall_mem_singleton.2 (by decide)) hs

lemma after?_append {word : String} {s : List Char} (hs : ∀ c ∈ s.head?, isBlank c = false) :
    after? word (word.toList ++ ' ' :: s) = some s := by
  have hprefix : word.toList.isPrefixOf? (word.toList ++ ' ' :: s) = some (' ' :: s) := by
    rw [List.isPrefixOf?_eq_some_iff_append_eq]
  rw [after?, hprefix, Option.bind_some, blanks?_space hs]

section Pair

variable {first second keyword : String} (h : IsPair first second keyword)
include h

lemma IsPair.pair?_append (s : List Char) : pair? first second (keyword.toList ++ s) = some s := by
  have hafter : after? first (first.toList ++ ' ' :: (second.toList ++ s)) =
      some (second.toList ++ s) := after?_append (h.head s)
  have hprefix : second.toList.isPrefixOf? (second.toList ++ s) = some s := by
    rw [List.isPrefixOf?_eq_some_iff_append_eq]
  rw [pair?, h.text, List.append_assoc, List.cons_append, hafter, Option.bind_some, hprefix]

lemma IsPair.marks : Marks (pairMark first second) keyword := by
  intro s
  rw [← isSome_pair?, h.pair?_append]
  rfl

end Pair

/-- How a clause is recognised: by its mark, and opened by its keyword and a space. -/
structure Opens (start? : List Char → Option (List Char)) (mark : Mark) (keyword : String) :
    Prop where
  marks : Marks mark keyword
  absent : ∀ b s, mark b s = false → start? s = none
  opened : ∀ s, (∀ c ∈ s.head?, isBlank c = false) → start? (keyword.toList ++ ' ' :: s) = some s

lemma opens_where : Opens (after? "where") (wordMark "where") "where" where
  marks := marks_wordMark "where"
  absent := fun _ _ => after?_eq_none
  opened := fun _ hs => after?_append hs

lemma IsPair.opens {first second keyword : String} (h : IsPair first second keyword) :
    Opens (fun s => (pair? first second s).bind blanks?) (pairMark first second) keyword where
  marks := h.marks
  absent := by
    intro b s hs
    rw [← isSome_pair?, Option.isSome_eq_false_iff, Option.isNone_iff_eq_none] at hs
    rw [hs]
    rfl
  opened := by
    intro s hs
    rw [h.pair?_append, Option.bind_some, blanks?_space hs]

/-! ### One clause -/

section Clause

variable {start? : List Char → Option (List Char)} {mark stop : Mark} {keyword : String}
  {body : Option String} {u r : List Char}

lemma toList_clauseText (keyword b : String) :
    (clauseText keyword (some b)).toList = ' ' :: (keyword.toList ++ ' ' :: b.toList) := by
  simp [clauseText]

lemma endsInWord_space (inWord : Bool) (u : List Char) :
    endsInWord inWord (u ++ [' ']) = false := by
  rw [endsInWord_append]
  exact not_word_space

lemma one_le_shown (hmarks : Marks mark keyword) (s : List Char) :
    1 ≤ places mark false (keyword.toList ++ ' ' :: s) [] := by
  refine one_le_places (by simp) ?_
  rw [List.append_nil]
  exact hmarks s

/-- A clause that is present shows its keyword. -/
lemma shown_le (hmarks : Marks mark keyword) (body : Option String) (inWord : Bool)
    (r : List Char) :
    body.toList.length ≤ places mark inWord ((clauseText keyword body).toList ++ r) [] := by
  cases body with
  | none => exact Nat.zero_le _
  | some b =>
    have hcut : (clauseText keyword (some b)).toList ++ r =
        ' ' :: (keyword.toList ++ ' ' :: (b.toList ++ r)) := by
      rw [toList_clauseText]
      simp
    rw [hcut, places_cons, not_word_space]
    exact Nat.le_trans (one_le_shown hmarks _) (Nat.le_add_left _ _)

/-- In front of a clause its keyword does not occur. -/
lemma places_front (hmarks : Marks mark keyword)
    (hcount : places mark false (u ++ ((clauseText keyword body).toList ++ r)) [] =
      body.toList.length) :
    places mark false u ((clauseText keyword body).toList ++ r) = 0 :=
  places_eq_zero_of_le (Nat.le_of_eq hcount) (shown_le hmarks body _ r)

lemma closes_clause (hmarks : Marks stop keyword) (hr : Closes stop r) :
    Closes stop ((clauseText keyword body).toList ++ r) := by
  cases body with
  | none => exact hr
  | some b =>
    rw [toList_clauseText, List.cons_append]
    refine closes_space (by simp) ?_
    rw [List.append_assoc]
    exact hmarks _

lemma cut_clause (hr : Cut r) : Cut ((clauseText keyword body).toList ++ r) := by
  cases body with
  | none => exact hr
  | some b =>
    rw [toList_clauseText]
    simp [Cut]

/-- **The body of a clause** is read up to blanks, if the clause is there. -/
lemma body?_clause (hopens : Opens start? mark keyword)
    (hbody : ∀ b ∈ body, b.toList ≠ [] ∧ ∀ c ∈ b.toList.head?, isBlank c = false)
    (hcount : places mark false (u ++ ((clauseText keyword body).toList ++ r)) [] =
      body.toList.length)
    (hstop : places stop false (u ++ (clauseText keyword body).toList) r = 0)
    (hr : Closes stop r) :
    ∃ tail, body? start? stop (u ++ ((clauseText keyword body).toList ++ r)) =
      (body.map fun b => b.toList ++ tail) ∧ ∀ c ∈ tail, isBlank c = true := by
  cases body with
  | none => exact ⟨[], body?_of_absent hopens.absent hcount, fun _ hc => nomatch hc⟩
  | some b =>
    obtain ⟨hne, hhead⟩ := hbody b rfl
    have hcut : u ++ ((clauseText keyword (some b)).toList ++ r) =
        (u ++ [' ']) ++ ((keyword.toList ++ [' ']) ++ (b.toList ++ r)) := by
      rw [toList_clauseText]
      simp
    have hu : places mark false (u ++ [' '])
        ((keyword.toList ++ [' ']) ++ (b.toList ++ r)) = 0 := by
      rw [hcut] at hcount
      refine places_eq_zero_of_le (Nat.le_of_eq hcount) ?_
      rw [endsInWord_space, List.append_assoc]
      exact one_le_shown hopens.marks _
    have hopen : start? ((keyword.toList ++ [' ']) ++ (b.toList ++ r)) = some (b.toList ++ r) := by
      rw [List.append_assoc, List.singleton_append]
      refine hopens.opened _ fun c hc => ?_
      rw [List.head?_append_of_ne_nil _ hne] at hc
      exact hhead c hc
    have hin : places stop false b.toList r = 0 := by
      have hsplit : u ++ (clauseText keyword (some b)).toList =
          (u ++ ' ' :: keyword.toList ++ [' ']) ++ b.toList := by
        rw [toList_clauseText]
        simp
      rw [hsplit, places_append_eq_zero_iff, endsInWord_space] at hstop
      exact hstop.2
    rw [hcut]
    exact body?_of_opened hopens.absent (by simp) hu hopen hin hr

lemma head?_intercalate {sep g : List Char} (hg : g ≠ []) (gs : List (List Char)) :
    (sep.intercalate (g :: gs)).head? = g.head? := by
  cases gs with
  | nil => rw [List.intercalate_singleton]
  | cons g' gs =>
    rw [List.intercalate_cons_cons, List.append_assoc, List.head?_append_of_ne_nil _ hg]

/-- A list begins as its first item does. -/
lemma head_listing {parts : List String} (hparts : ∀ g ∈ parts.map String.toList, IsItem g) :
    ∀ b ∈ listing? parts, b.toList ≠ [] ∧ ∀ c ∈ b.toList.head?, isBlank c = false := by
  intro b hb
  cases parts with
  | nil => cases hb
  | cons part parts =>
    have hlist : listing? (part :: parts) = some (", ".intercalate (part :: parts)) :=
      if_neg (by simp)
    rw [hlist] at hb
    cases hb
    have hitem := hparts part.toList (by simp)
    have hhead : (", ".toList.intercalate (part.toList :: parts.map String.toList)).head? =
        part.toList.head? := head?_intercalate hitem.ne_nil _
    rw [String.toList_intercalate, List.map_cons]
    refine ⟨fun hnil => ?_, ?_⟩
    · rw [hnil, List.head?_nil] at hhead
      exact hitem.ne_nil (List.head?_eq_none_iff.1 hhead.symm)
    · rw [hhead]
      exact not_isBlank_head hitem.trimmed

/-- **The items of a clause** are those it lists; without the clause there are none. -/
lemma items_clause {parts : List String} (hopens : Opens start? mark keyword)
    (hparts : ∀ part ∈ parts, IsPart part ∧ ',' ∉ part.toList)
    (hcount : places mark false (u ++ ((clauseText keyword (listing? parts)).toList ++ r)) [] =
      (listing? parts).toList.length)
    (hstop : places stop false (u ++ (clauseText keyword (listing? parts)).toList) r = 0)
    (hr : Closes stop r) :
    ((body? start? stop (u ++ ((clauseText keyword (listing? parts)).toList ++ r))).map items).getD
      [] = parts := by
  have hitems : ∀ g ∈ parts.map String.toList, IsItem g := by
    intro g hg
    obtain ⟨part, hpart, rfl⟩ := List.mem_map.1 hg
    obtain ⟨hp, hcomma⟩ := hparts part hpart
    exact ⟨by simpa using hp.ne_empty, hp.trimmed, hcomma⟩
  obtain ⟨tail, hread, htail⟩ := body?_clause hopens (head_listing hitems) hcount hstop hr
  rw [hread]
  by_cases hnil : parts = []
  · subst hnil
    rfl
  · have hlist : listing? parts = some (", ".intercalate parts) := if_neg hnil
    have hcomma : ", ".toList = [',', ' '] := by decide
    have hmap : parts.map String.toList ≠ [] := by simpa using hnil
    rw [hlist, Option.map_some, Option.map_some, Option.getD_some, String.toList_intercalate,
      hcomma, items_intercalate hmap hitems htail, List.map_map]
    simp

end Clause

/-! ### The limit -/

lemma standing_keyword {word : String} (hne : word.toList ≠ []) (s : List Char) :
    ∃ rest, standing word.toList false (word.toList ++ ' ' :: s) = (' ' :: s) :: rest := by
  have hprefix : word.toList.isPrefixOf? (word.toList ++ ' ' :: s) = some (' ' :: s) := by
    rw [List.isPrefixOf?_eq_some_iff_append_eq]
  have halone : standsAlone? word.toList false (word.toList ++ ' ' :: s) = some (' ' :: s) := by
    rw [standsAlone?, if_neg (by simp), hprefix, Option.bind_some, startsInWord, not_word_space]
    rfl
  generalize word.toList = w at hne halone ⊢
  obtain ⟨c, w, rfl⟩ := List.exists_cons_of_ne_nil hne
  rw [List.cons_append] at halone ⊢
  exact ⟨_, by rw [standing, halone, Option.toList_some, List.singleton_append]⟩

/-- The first word of its own that is "limit" has the number behind it. -/
lemma limit_of_standing {text : String} {n : ℕ} (hn : n < Decimal.words64) {rest : List (List Char)}
    (h : standing "limit".toList false text.toList = (' ' :: Nat.toDigits 10 n) :: rest) :
    Clause.limit text = some n := by
  have hread := BoundValue.digits_read n (r := []) (by simp)
  rw [List.append_nil] at hread
  rw [Clause.limit, h, List.findSome?_cons, hread]
  simp [BoundValue.natOfDigits?_toDigits, hn]

lemma limit_of_clause {text : String} {u : List Char} {limit : Option Nat}
    (htext : text.toList = u ++ (clauseText "limit" (limit.map toString)).toList)
    (hn : ∀ n ∈ limit, n < Decimal.words64)
    (hcount : occurrences limitMark text = (limit.map toString).toList.length) :
    Clause.limit text = limit := by
  rw [occurrences] at hcount
  cases limit with
  | none =>
    have hnone : standing "limit".toList false text.toList = [] := by
      rw [← List.length_eq_zero_iff, length_standing_eq]
      exact hcount
    rw [Clause.limit, hnone]
    rfl
  | some n =>
    have hcut : text.toList = (u ++ [' ']) ++ ("limit".toList ++ ' ' :: Nat.toDigits 10 n) := by
      rw [htext, Option.map_some, toList_clauseText, Nat.toString_eq_repr, Nat.toList_repr]
      simp
    have hu : places limitMark false (u ++ [' '])
        ("limit".toList ++ ' ' :: Nat.toDigits 10 n) = 0 := by
      rw [hcut] at hcount
      refine places_eq_zero_of_le (Nat.le_of_eq hcount) ?_
      rw [endsInWord_space]
      exact one_le_shown (marks_aloneMark "limit") _
    have hne : "limit".toList ≠ [] := by simp
    obtain ⟨rest, hfirst⟩ := standing_keyword hne (Nat.toDigits 10 n)
    have hstanding : standing "limit".toList false text.toList =
        (' ' :: Nat.toDigits 10 n) :: rest := by
      rw [hcut, standing_append_of_places hu, endsInWord_space, hfirst]
    exact limit_of_standing (hn n rfl) hstanding

end QueryGuard.Proofs.ShownClauses
