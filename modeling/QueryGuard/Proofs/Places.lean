import QueryGuard.Outline.Clause
import QueryGuard.Proofs.ClauseNames

/-!
The places of a text where something begins.

A mark tells whether something begins at a place; it sees the text from there on, and whether a word
character precedes. The places of a part are counted with what follows the part in view, so the
counts of the parts add up to the count of the whole. A search passes over a part without a place
where it could stop, and goes on behind it.
-/

namespace QueryGuard.Proofs.Places

open Text TextRuns

/-- Whether something begins where the text begins. The first argument tells whether a word
character precedes. -/
abbrev Mark := Bool → List Char → Bool

/-- The number of places of `u` that bear the mark when `r` stands behind `u`. -/
def places (mark : Mark) (inWord : Bool) : List Char → List Char → Nat
  | [], _ => 0
  | c :: u, r => (mark inWord (c :: (u ++ r))).toNat + places mark (isWordChar c) u r

/-- Whether a word character stands in front of what follows `u`. -/
def endsInWord (inWord : Bool) (u : List Char) : Bool := u.foldl (fun _ c => isWordChar c) inWord

variable {mark other stop : Mark} {inWord : Bool} {u v r : List Char}

@[simp] lemma places_nil : places mark inWord [] r = 0 := rfl

lemma places_cons (c : Char) : places mark inWord (c :: u) r =
    (mark inWord (c :: (u ++ r))).toNat + places mark (isWordChar c) u r := rfl

@[simp] lemma endsInWord_nil : endsInWord inWord [] = inWord := rfl

@[simp] lemma endsInWord_append :
    endsInWord inWord (u ++ v) = endsInWord (endsInWord inWord u) v := by
  simp [endsInWord]

/-- **Places add up.** -/
lemma places_append : places mark inWord (u ++ v) r =
    places mark inWord u (v ++ r) + places mark (endsInWord inWord u) v r := by
  induction u generalizing inWord with
  | nil => simp
  | cons c u ih =>
    rw [List.cons_append, places_cons, places_cons, ih, List.append_assoc, Nat.add_assoc]
    rfl

/-- With what follows counted too, the places of a part are at most those of the whole. -/
lemma places_le_append :
    places mark (endsInWord inWord u) v [] ≤ places mark inWord (u ++ v) [] := by
  rw [places_append]
  omega

lemma one_le_places (hu : u ≠ []) (h : mark inWord (u ++ r) = true) :
    1 ≤ places mark inWord u r := by
  obtain ⟨c, u, rfl⟩ := List.exists_cons_of_ne_nil hu
  rw [List.cons_append] at h
  rw [places_cons, h]
  simp

/-- All places of a text are in its last part. -/
lemma places_eq_zero_of_le {n : Nat} (hle : places mark inWord (u ++ v) [] ≤ n)
    (hv : n ≤ places mark (endsInWord inWord u) v []) : places mark inWord u v = 0 := by
  rw [places_append, List.append_nil] at hle
  omega

lemma places_append_eq_zero_iff : places mark inWord (u ++ v) r = 0 ↔
    places mark inWord u (v ++ r) = 0 ∧ places mark (endsInWord inWord u) v r = 0 := by
  rw [places_append]
  omega

lemma places_or_eq_zero_iff : places (fun b s => mark b s || other b s) inWord u r = 0 ↔
    places mark inWord u r = 0 ∧ places other inWord u r = 0 := by
  induction u generalizing inWord with
  | nil => simp
  | cons c u ih =>
    simp only [places_cons, Nat.add_eq_zero_iff, ih, Bool.toNat_eq_zero, Bool.or_eq_false_iff]
    tauto

/-! ### Searches -/

section Searches

variable {α : Type}

/-- What begins at no place of a part is not read there. -/
lemma readAll_append_of_places {m : List Char → Option (α × List Char)}
    (hm : ∀ b s, mark b s = false → m s = none) (h : places mark inWord u r = 0) :
    readAll m (u ++ r) = readAll m r := by
  induction u generalizing inWord with
  | nil => rfl
  | cons c u ih =>
    rw [places_cons, Nat.add_eq_zero_iff, Bool.toNat_eq_zero] at h
    rw [List.cons_append, readAll_cons_of_none (hm _ _ h.1)]
    exact ih h.2

lemma readAll_of_places {m : List Char → Option (α × List Char)}
    (hm : ∀ b s, mark b s = false → m s = none) (h : places mark inWord u [] = 0) :
    readAll m u = [] := by
  have hnone := readAll_append_of_places hm h
  rwa [List.append_nil] at hnone

/-- With at most `n + 1` places in all and `n` of them behind the first reading, that reading is the
first that there is. -/
lemma readAll_first {m : List Char → Option (α × List Char)}
    (hm : ∀ b s, mark b s = false → m s = none) {x : List Char} {a : α} {n : Nat} (hx : x ≠ [])
    (hread : m (x ++ r) = some (a, r)) (hcount : places mark inWord (u ++ (x ++ r)) [] ≤ n + 1)
    (hrest : ∀ b, n ≤ places mark b r []) :
    readAll m (u ++ (x ++ r)) = a :: readAll m r ∧ ∃ b, places mark b r [] ≤ n := by
  have hmark : mark (endsInWord inWord u) (x ++ r) = true := by
    rw [← Bool.not_eq_false]
    intro hnot
    rw [hm _ _ hnot] at hread
    cases hread
  have hone := one_le_places hx hmark
  rw [places_append, places_append, List.append_nil, List.append_nil] at hcount
  have hbehind := hrest (endsInWord (endsInWord inWord u) x)
  have hu : places mark inWord u (x ++ r) = 0 := by omega
  refine ⟨?_, endsInWord (endsInWord inWord u) x, by omega⟩
  rw [readAll_append_of_places hm hu, ClauseNames.readAll_append_of_some hx hread]

lemma firstMatch?_append_of_places {m : List Char → Option α}
    (hm : ∀ b s, mark b s = false → m s = none) (h : places mark inWord u r = 0) :
    firstMatch? m (u ++ r) = firstMatch? m r := by
  induction u generalizing inWord with
  | nil => rfl
  | cons c u ih =>
    rw [places_cons, Nat.add_eq_zero_iff, Bool.toNat_eq_zero] at h
    rw [List.cons_append, firstMatch?, hm _ _ h.1]
    exact ih h.2

/-- A text is cut no earlier than at a place where it stops. -/
lemma upTo_append_of_places (h : places stop inWord u r = 0) :
    upTo stop inWord (u ++ r) = u ++ upTo stop (endsInWord inWord u) r := by
  induction u generalizing inWord with
  | nil => rfl
  | cons c u ih =>
    rw [places_cons, Nat.add_eq_zero_iff, Bool.toNat_eq_zero] at h
    rw [List.cons_append, upTo, if_neg (by simp [h.1]), ih h.2]
    rfl

end Searches

/-! ### Keywords -/

/-- The word stands here, perhaps inside another. -/
def wordMark (word : String) : Mark := fun _ s => word.toList.isPrefixOf s

/-- Blanks, and the word behind them. -/
def startsAfterBlanks (word : String) (s : List Char) : Bool :=
  s.head?.any isBlank && word.toList.isPrefixOf (s.dropWhile isBlank)

/-- The two words stand here with blanks between them. -/
def pairMark (first second : String) : Mark := fun _ s =>
  first.toList.isPrefixOf s && startsAfterBlanks second (s.drop first.length)

/-- The word stands here with no word character beside it. -/
def aloneMark (word : String) : Mark := fun inWord s =>
  !inWord && word.toList.isPrefixOf s && !(s.drop word.length).head?.any isWordChar

/-- At how many places of a text something begins. -/
def occurrences (mark : Mark) (text : String) : Nat := places mark false text.toList []

lemma isPrefixOf?_eq (w s : List Char) :
    w.isPrefixOf? s = if w.isPrefixOf s then some (s.drop w.length) else none := by
  by_cases h : w.isPrefixOf s = true
  · obtain ⟨r, rfl⟩ := List.isPrefixOf_iff_prefix.1 h
    rw [if_pos h, List.isPrefixOf?_eq_some_iff_append_eq, List.drop_left]
  · rw [if_neg h, Option.eq_none_iff_forall_ne_some]
    intro r hr
    rw [List.isPrefixOf?_eq_some_iff_append_eq] at hr
    exact h (List.isPrefixOf_iff_prefix.2 ⟨r, hr⟩)

lemma blanks?_eq (s : List Char) :
    blanks? s = if s.head?.any isBlank then some (s.dropWhile isBlank) else none := by
  cases s with
  | nil => rfl
  | cons c s =>
    simp only [blanks?, List.head?_cons, Option.any_some]
    split <;> simp_all [dropBlanks]

lemma startsInWord_eq (s : List Char) : startsInWord s = s.head?.any isWordChar := by
  cases s <;> rfl

lemma after?_eq_none {word : String} {s : List Char} (h : wordMark word inWord s = false) :
    Clause.after? word s = none := by
  unfold wordMark at h
  rw [Clause.after?, isPrefixOf?_eq, h]
  rfl

lemma named?_of_not_wordMark {keyword : String} (b : Bool) (s : List Char)
    (h : wordMark keyword b s = false) : Clause.named? keyword s = none := by
  rw [Clause.named?, after?_eq_none h]
  rfl

lemma isSome_pair? (first second : String) (s : List Char) :
    (Clause.pair? first second s).isSome = pairMark first second inWord s := by
  unfold Clause.pair? Clause.after? pairMark startsAfterBlanks
  rw [isPrefixOf?_eq, String.length_toList]
  generalize s.drop first.length = rest
  cases first.toList.isPrefixOf s with
  | false => rfl
  | true =>
    rw [if_pos rfl, Option.bind_some, blanks?_eq]
    cases rest.head?.any isBlank with
    | false => rfl
    | true =>
      rw [if_pos rfl, Option.bind_some, isPrefixOf?_eq]
      cases second.toList.isPrefixOf (rest.dropWhile isBlank) <;> rfl

lemma isSome_standsAlone? (word : String) (s : List Char) :
    (standsAlone? word.toList inWord s).isSome = aloneMark word inWord s := by
  unfold standsAlone? aloneMark
  rw [isPrefixOf?_eq, String.length_toList]
  generalize s.drop word.length = rest
  cases inWord with
  | true => rfl
  | false =>
    cases word.toList.isPrefixOf s with
    | false => rfl
    | true =>
      rw [if_neg Bool.false_ne_true, if_pos rfl, Option.bind_some, startsInWord_eq]
      cases rest.head?.any isWordChar <;> rfl

/-- Words of their own are found at the places where they stand. -/
lemma length_standing_eq (word : String) (s : List Char) :
    (standing word.toList inWord s).length = places (aloneMark word) inWord s [] := by
  induction s generalizing inWord with
  | nil => rfl
  | cons c s ih =>
    have hone : (standsAlone? word.toList inWord (c :: s)).toList.length =
        (aloneMark word inWord (c :: s)).toNat := by
      rw [← isSome_standsAlone?]
      cases standsAlone? word.toList inWord (c :: s) <;> rfl
    rw [standing, List.length_append, hone, ih, places_cons, List.append_nil]

lemma standing_append_of_places {word : String} (h : places (aloneMark word) inWord u r = 0) :
    standing word.toList inWord (u ++ r) = standing word.toList (endsInWord inWord u) r := by
  induction u generalizing inWord with
  | nil => rfl
  | cons c u ih =>
    rw [places_cons, Nat.add_eq_zero_iff, Bool.toNat_eq_zero] at h
    have hnone : standsAlone? word.toList inWord (c :: (u ++ r)) = none := by
      rw [← Option.isNone_iff_eq_none, ← Option.isSome_eq_false_iff, isSome_standsAlone?, h.1]
    rw [List.cons_append, standing, hnone, ih h.2]
    rfl

end QueryGuard.Proofs.Places
