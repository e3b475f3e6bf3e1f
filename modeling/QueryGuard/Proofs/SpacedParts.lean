import QueryGuard.Proofs.ClauseNames
import QueryGuard.Proofs.LowerParts
import QueryGuard.Proofs.Places

/-!
Texts put together from parts with blanks between them.

Keywords are read where they stand with a gap behind them, and a name up to the gap behind it. The
lower case of such a text is put together from the lower case of its parts, with the same gaps.
-/

namespace QueryGuard.Proofs.SpacedParts

open Text TextRuns LowerParts Places ClauseNames Clause

/-- What stands between two parts. -/
structure IsGap (g : List Char) : Prop where
  ne_nil : g ≠ []
  blank : ∀ c ∈ g, isBlank c = true

instance (g : List Char) : Decidable (IsGap g) :=
  decidable_of_iff (g ≠ [] ∧ g.all isBlank = true)
    ⟨fun ⟨hne, hblank⟩ => ⟨hne, List.all_eq_true.1 hblank⟩,
      fun ⟨hne, hblank⟩ => ⟨hne, List.all_eq_true.2 hblank⟩⟩

/-- No blank comes first. -/
def Flush (r : List Char) : Prop := ∀ c ∈ r.head?, isBlank c = false

instance (r : List Char) : Decidable (Flush r) :=
  decidable_of_iff ((r.head?.all fun c => !isBlank c) = true)
    (by unfold Flush; cases r.head? <;> simp)

/-- The parts in their order, each behind a gap. -/
inductive Behind : List String → List Char → Prop
  | nil : Behind [] []
  | cons {g : List Char} {p : String} {ps : List String} {t : List Char} (hg : IsGap g)
      (ht : Behind ps t) : Behind (p :: ps) (g ++ (p.toList ++ t))

/-- The parts in their order, with a gap between each two. -/
inductive Spaced : List String → List Char → Prop
  | mk {p : String} {ps : List String} {t : List Char} (ht : Behind ps t) :
      Spaced (p :: ps) (p.toList ++ t)

variable {p word first second : String} {ps qs : List String} {s t r g : List Char}

lemma behind_cons_iff : Behind (p :: ps) s ↔
    ∃ g t, IsGap g ∧ Behind ps t ∧ s = g ++ (p.toList ++ t) := by
  constructor
  · rintro (_ | ⟨hg, ht⟩)
    exact ⟨_, _, hg, ht, rfl⟩
  · rintro ⟨g, t, hg, ht, rfl⟩
    exact .cons hg ht

lemma behind_nil_iff : Behind [] s ↔ s = [] := by
  constructor
  · rintro ⟨⟩
    rfl
  · rintro rfl
    exact .nil

lemma behind_append_iff :
    Behind (ps ++ qs) s ↔ ∃ u v, Behind ps u ∧ Behind qs v ∧ s = u ++ v := by
  induction ps generalizing s with
  | nil => simp [behind_nil_iff]
  | cons p ps ih =>
    simp only [List.cons_append, behind_cons_iff, ih]
    constructor
    · rintro ⟨g, _, hg, ⟨u, v, hu, hv, rfl⟩, rfl⟩
      exact ⟨_, v, ⟨g, u, hg, hu, rfl⟩, hv, by simp only [List.append_assoc]⟩
    · rintro ⟨_, v, ⟨g, u, hg, hu, rfl⟩, hv, rfl⟩
      exact ⟨g, _, hg, ⟨u, v, hu, hv, rfl⟩, by simp only [List.append_assoc]⟩

lemma spaced_cons_iff : Spaced (p :: ps) s ↔ ∃ t, Behind ps t ∧ s = p.toList ++ t := by
  constructor
  · rintro ⟨ht⟩
    exact ⟨_, ht, rfl⟩
  · rintro ⟨t, ht, rfl⟩
    exact .mk ht

lemma behind_cons_iff_spaced :
    Behind (p :: ps) s ↔ ∃ g t, IsGap g ∧ Spaced (p :: ps) t ∧ s = g ++ t := by
  simp only [behind_cons_iff, spaced_cons_iff]
  constructor
  · rintro ⟨g, t, hg, ht, rfl⟩
    exact ⟨g, _, hg, ⟨t, ht, rfl⟩, rfl⟩
  · rintro ⟨g, _, hg, ⟨t, ht, rfl⟩, rfl⟩
    exact ⟨g, t, hg, ht, rfl⟩

/-- Later parts stand behind the earlier ones. -/
lemma Spaced.exists_behind (hne : ps ≠ []) (h : Spaced (ps ++ qs) s) :
    ∃ u v, Behind qs v ∧ s = u ++ v := by
  obtain ⟨p, ps, rfl⟩ := List.exists_cons_of_ne_nil hne
  obtain ⟨t, ht, rfl⟩ := spaced_cons_iff.1 h
  obtain ⟨u, v, -, hv, rfl⟩ := behind_append_iff.1 ht
  exact ⟨p.toList ++ u, v, hv, (List.append_assoc _ _ _).symm⟩

lemma spaced_singleton_iff : Spaced [p] s ↔ s = p.toList := by
  simp [spaced_cons_iff, behind_nil_iff]

/-- The parts with one and the same gap between each two. -/
lemma spaced_intercalate (hg : IsGap g) (hne : ps ≠ []) :
    Spaced ps (g.intercalate (ps.map String.toList)) := by
  induction ps with
  | nil => exact absurd rfl hne
  | cons p ps ih =>
    cases ps with
    | nil =>
      rw [List.map_singleton, List.intercalate_singleton]
      exact spaced_singleton_iff.2 rfl
    | cons q ps =>
      obtain ⟨t, ht, htext⟩ := spaced_cons_iff.1 (ih (by simp))
      rw [List.map_cons] at htext
      rw [List.map_cons, List.map_cons, List.intercalate_cons_cons, htext, List.append_assoc]
      exact .mk (.cons hg ht)

lemma spaced_pair_iff : Spaced [first, second] s ↔
    ∃ g, IsGap g ∧ s = first.toList ++ (g ++ second.toList) := by
  simp only [spaced_cons_iff, behind_cons_iff, behind_nil_iff]
  constructor
  · rintro ⟨_, ⟨g, _, hg, rfl, rfl⟩, rfl⟩
    exact ⟨g, hg, by rw [List.append_nil]⟩
  · rintro ⟨g, hg, rfl⟩
    exact ⟨_, ⟨g, [], hg, rfl, rfl⟩, by rw [List.append_nil]⟩

/-! ### Keywords -/

/-- The words stand first, a gap behind them, and `r` is what follows the gap. -/
def OpensWith (words : List String) (s r : List Char) : Prop :=
  ∃ t g, Spaced words t ∧ IsGap g ∧ Flush r ∧ s = t ++ (g ++ r)

lemma flush_append (hs : s ≠ []) : Flush (s ++ r) ↔ Flush s := by
  rw [Flush, List.head?_append_of_ne_nil _ hs, Flush]

lemma blanks?_eq_some_iff : blanks? s = some r ↔ ∃ g, IsGap g ∧ Flush r ∧ s = g ++ r := by
  constructor
  · intro h
    cases s with
    | nil => cases h
    | cons c s =>
      rw [blanks?] at h
      split at h
      · rename_i hc
        obtain rfl := Option.some.inj h
        refine ⟨c :: s.takeWhile isBlank, ⟨by simp, ?_⟩, ?_, ?_⟩
        · rintro d (_ | ⟨_, hd⟩)
          · exact hc
          · exact List.all_eq_true.1 List.all_takeWhile d hd
        · intro d hd
          have hnot := List.head?_dropWhile_not isBlank s
          rw [← dropBlanks, hd] at hnot
          simpa using hnot
        · rw [List.cons_append, dropBlanks, List.takeWhile_append_dropWhile]
      · cases h
  · rintro ⟨g, hg, hr, rfl⟩
    exact blanks?_append hg.ne_nil hg.blank hr

lemma after?_eq_some_iff : after? p s = some r ↔ OpensWith [p] s r := by
  rw [after?, Option.bind_eq_some_iff, OpensWith]
  simp only [List.isPrefixOf?_eq_some_iff_append_eq, blanks?_eq_some_iff, spaced_singleton_iff]
  constructor
  · rintro ⟨_, rfl, g, hg, hr, rfl⟩
    exact ⟨_, g, rfl, hg, hr, rfl⟩
  · rintro ⟨_, g, rfl, hg, hr, rfl⟩
    exact ⟨_, rfl, g, hg, hr, rfl⟩

section Pair

variable (hne : second.toList ≠ []) (hflush : Flush second.toList)
include hne hflush

/-- Two keywords are read where they stand with a gap between them. -/
lemma pair?_eq_some_iff :
    pair? first second s = some r ↔ ∃ t, Spaced [first, second] t ∧ s = t ++ r := by
  rw [pair?, Option.bind_eq_some_iff]
  simp only [after?_eq_some_iff, OpensWith, List.isPrefixOf?_eq_some_iff_append_eq,
    spaced_singleton_iff, spaced_pair_iff]
  constructor
  · rintro ⟨_, ⟨_, g, rfl, hg, -, rfl⟩, rfl⟩
    exact ⟨_, ⟨g, hg, rfl⟩, by simp only [List.append_assoc]⟩
  · rintro ⟨_, ⟨g, hg, rfl⟩, rfl⟩
    exact ⟨_, ⟨_, g, rfl, hg, (flush_append hne).2 hflush, by simp only [List.append_assoc]⟩, rfl⟩

lemma pair?_blanks?_eq_some_iff :
    (pair? first second s).bind blanks? = some r ↔ OpensWith [first, second] s r := by
  rw [Option.bind_eq_some_iff, OpensWith]
  simp only [pair?_eq_some_iff hne hflush, blanks?_eq_some_iff]
  constructor
  · rintro ⟨_, ⟨t, ht, rfl⟩, g, hg, hr, rfl⟩
    exact ⟨t, g, ht, hg, hr, rfl⟩
  · rintro ⟨t, g, ht, hg, hr, rfl⟩
    exact ⟨_, ⟨t, ht, rfl⟩, g, hg, hr, rfl⟩

end Pair

/-! ### Names among the parts -/

structure IsMadeOf (signs : Char → Bool) (s : String) : Prop where
  ne_nil : s.toList ≠ []
  signs : ∀ c ∈ s.toList, signs c = true

instance (signs : Char → Bool) (s : String) : Decidable (IsMadeOf signs s) :=
  decidable_of_iff (s.toList ≠ [] ∧ s.toList.all signs = true)
    ⟨fun ⟨hne, hsigns⟩ => ⟨hne, List.all_eq_true.1 hsigns⟩,
      fun ⟨hne, hsigns⟩ => ⟨hne, List.all_eq_true.2 hsigns⟩⟩

/-- A part ends in front of `r`. -/
def Loose (r : List Char) : Prop := ∀ c ∈ r.head?, isBlank c = true

lemma loose_gap (hg : IsGap g) (s : List Char) : Loose (g ++ s) := by
  intro d hd
  rw [List.head?_append_of_ne_nil _ hg.ne_nil] at hd
  exact hg.blank d (List.mem_of_mem_head? hd)

lemma loose_behind (h : Behind ps t) (hr : Loose r) : Loose (t ++ r) := by
  cases h with
  | nil => exact hr
  | cons hg ht =>
    rw [List.append_assoc]
    exact loose_gap hg _

lemma loose_of_behind (h : Behind ps t) : Loose t := by
  have hloose := loose_behind h (r := []) fun d hd => nomatch hd
  rwa [List.append_nil] at hloose

lemma isDottedChar_of_isNameChar {d : Char} (h : isNameChar d = true) : isDottedChar d = true := by
  simp [isDottedChar, h]

lemma IsMadeOf.dotted (h : IsMadeOf isNameChar p) : IsMadeOf isDottedChar p :=
  ⟨h.ne_nil, fun d hd => isDottedChar_of_isNameChar (h.signs d hd)⟩

lemma not_isDottedChar_of_isBlank {d : Char} (h : isBlank d = true) : isDottedChar d = false := by
  rw [← Bool.not_eq_true]
  intro hdot
  rw [not_isBlank_of_isDottedChar hdot] at h
  cases h

lemma IsMadeOf.flush (h : IsMadeOf isDottedChar p) (s : List Char) : Flush (p.toList ++ s) := by
  rw [flush_append h.ne_nil]
  exact fun d hd => not_isBlank_of_isDottedChar (h.signs d (List.mem_of_mem_head? hd))

lemma run?_dotted (h : IsMadeOf isDottedChar p) (hr : Loose r) :
    run? isDottedChar (p.toList ++ r) = some (p.toList, r) :=
  run?_append h.ne_nil h.signs fun d hd => not_isDottedChar_of_isBlank (hr d hd)

lemma run?_name (h : IsMadeOf isNameChar p) (hr : Loose r) :
    run? isNameChar (p.toList ++ r) = some (p.toList, r) :=
  run?_append h.ne_nil h.signs fun d hd =>
    (Bool.or_eq_false_iff.1 (not_isDottedChar_of_isBlank (hr d hd))).1

lemma blanks?_behind (h : Behind (p :: ps) t) (hp : IsMadeOf isDottedChar p) :
    ∃ t', Behind ps t' ∧ blanks? (t ++ r) = some (p.toList ++ (t' ++ r)) := by
  obtain ⟨g, t', hg, ht', rfl⟩ := behind_cons_iff.1 h
  refine ⟨t', ht', blanks?_eq_some_iff.2 ⟨g, hg, hp.flush _, ?_⟩⟩
  simp only [List.append_assoc]

lemma after?_self (s : List Char) : after? word (word.toList ++ s) = blanks? s := by
  have hprefix : word.toList.isPrefixOf? (word.toList ++ s) = some s := by
    rw [List.isPrefixOf?_eq_some_iff_append_eq]
  rw [after?, hprefix, Option.bind_some]

/-- A keyword is not read off another part, even where this begins like the keyword. -/
lemma after?_of_ne (hword : IsMadeOf isDottedChar word) (hp : IsMadeOf isDottedChar p)
    (hne : p ≠ word) (hr : Loose r) : after? word (p.toList ++ r) = none := by
  rw [Option.eq_none_iff_forall_ne_some]
  intro rest h
  obtain ⟨_, g, ht, hg, -, hs⟩ := after?_eq_some_iff.1 h
  rw [spaced_singleton_iff] at ht
  subst ht
  have hrun := run?_dotted hp hr
  rw [hs, run?_dotted hword (loose_gap hg rest)] at hrun
  exact hne (String.toList_inj.1 (congrArg Prod.fst (Option.some.inj hrun)).symm)

/-! ### Lower case -/

lemma Behind.lower (h : Behind ps t) (s : List Char) :
    ∃ t', Behind (ps.map lowerCase) t' ∧ Text.lower (s ++ t) = Text.lower s ++ t' := by
  induction h generalizing s with
  | nil => exact ⟨[], .nil, by rw [List.append_nil, List.append_nil]⟩
  | @cons g p ps t hg _ ih =>
    obtain ⟨t', ht', hlow⟩ := ih p.toList
    refine ⟨g ++ ((lowerCase p).toList ++ t'), .cons hg ht', ?_⟩
    rw [lower_append_blanks hg.ne_nil hg.blank, hlow, toList_lowerCase]

/-- The lower case of spaced parts is their lower case, spaced. -/
lemma Spaced.lower (h : Spaced ps s) : Spaced (ps.map lowerCase) (Text.lower s) := by
  cases h with
  | @mk p ps t ht =>
    obtain ⟨t', ht', hlow⟩ := ht.lower p.toList
    rw [hlow, ← toList_lowerCase]
    exact .mk ht'

/-! ### Counting keywords -/

/-- A keyword occurs at least as often as it is a part. -/
lemma count_le_places (hne : word.toList ≠ []) (h : Behind ps t)
    (inWord : Bool) (r : List Char) : ps.count word ≤ places (wordMark word) inWord t r := by
  induction h generalizing inWord with
  | nil => simp
  | @cons g p ps t hg _ ih =>
    have hrest := ih (endsInWord (endsInWord inWord g) p.toList)
    rw [places_append, places_append, List.count_cons]
    by_cases hp : p = word
    · subst hp
      have hone : 1 ≤ places (wordMark p) (endsInWord inWord g) p.toList (t ++ r) :=
        one_le_places hne (by simp [wordMark, List.isPrefixOf_iff_prefix])
      simp only [beq_self_eq_true, if_true]
      omega
    · rw [if_neg (by simpa using hp)]
      omega

end QueryGuard.Proofs.SpacedParts
