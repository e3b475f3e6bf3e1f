import Mathlib.Data.List.Basic
import QueryGuard.Text.Search

/-!
The runs of a text: its longest pieces without separators.

Which characters separate is a parameter. With blanks the runs are the words of the text; with
all that is no word character they are the places where a word can stand alone. A coarser set
of separators cuts the runs of a finer one, so what is asked about runs may be asked before or
after the blanks of a text are collapsed.
-/

namespace QueryGuard.Proofs.TextRuns

open Text

variable {p : Char → Bool}

lemma splitWhere_eq_splitOnP (p : Char → Bool) (s : List Char) :
    splitWhere p s = s.splitOnP p := by
  induction s with
  | nil => rfl
  | cons c s ih =>
    rw [List.splitOnP_cons_eq_if_modifyHead, ← ih]
    simp only [splitWhere]
    split
    · rfl
    · split
      · rename_i h
        exact absurd h (splitWhere_ne_nil p s)
      · rename_i h
        rw [h, List.modifyHead_cons]

lemma splitWhere_cons_sep {c : Char} (hc : p c = true) (s : List Char) :
    splitWhere p (c :: s) = [] :: splitWhere p s := by
  simp [splitWhere, hc]

lemma splitWhere_append_sep {c : Char} (hc : p c = true) (s t : List Char) :
    splitWhere p (s ++ c :: t) = splitWhere p s ++ splitWhere p t := by
  simp only [splitWhere_eq_splitOnP]
  exact List.splitOnP_append_cons s t hc

lemma splitWhere_of_free {w : List Char} (hw : ∀ c ∈ w, p c = false) : splitWhere p w = [w] := by
  rw [splitWhere_eq_splitOnP]
  exact List.splitOnP_eq_singleton hw

/-- A piece without separators is put in front of the first piece. -/
lemma splitWhere_append_free {w : List Char} (hw : ∀ c ∈ w, p c = false) (s : List Char) :
    splitWhere p (w ++ s) = (splitWhere p s).modifyHead (w ++ ·) := by
  induction w with
  | nil => simp [show (fun x : List Char => x) = id from rfl]
  | cons c w ih =>
    have hc : p c = false := hw c (by simp)
    have ih' := ih fun d hd => hw d (by simp [hd])
    rw [splitWhere_eq_splitOnP, List.cons_append, List.splitOnP_cons_eq_if_modifyHead, hc,
      ← splitWhere_eq_splitOnP, ih']
    simp [Function.comp_def]

lemma splitWhere_map {f : Char → Char} (hf : ∀ c, p (f c) = p c) (s : List Char) :
    splitWhere p (s.map f) = (splitWhere p s).map (List.map f) := by
  induction s with
  | nil => rfl
  | cons c s ih =>
    simp only [splitWhere_eq_splitOnP, List.map_cons, List.splitOnP_cons_eq_if_modifyHead] at ih ⊢
    rw [hf c, ih]
    split
    · rfl
    · cases s.splitOnP p <;> rfl

lemma head?_splitWhere (p : Char → Bool) (s : List Char) :
    (splitWhere p s).head? = some (s.takeWhile fun c => !p c) := by
  induction s with
  | nil => rfl
  | cons c s ih =>
    rw [splitWhere_eq_splitOnP, List.splitOnP_cons_eq_if_modifyHead, ← splitWhere_eq_splitOnP]
    by_cases hc : p c <;> simp [hc, ih]

/-- Texts taken apart at their first separator. -/
lemma separated_induction {motive : List Char → Prop}
    (free : ∀ w, (∀ c ∈ w, p c = false) → motive w)
    (sep : ∀ w c s, (∀ d ∈ w, p d = false) → p c = true → motive s → motive (w ++ c :: s))
    (s : List Char) : motive s := by
  suffices h : ∀ w, (∀ c ∈ w, p c = false) → motive (w ++ s) from h [] (by simp)
  induction s with
  | nil => intro w hw; simpa using free w hw
  | cons c s ih =>
    intro w hw
    cases hc : p c with
    | true => exact sep w c s hw hc (ih [] (by simp))
    | false =>
      have hwc : ∀ d ∈ w ++ [c], p d = false := by
        intro d hd
        rcases List.mem_append.1 hd with h | h
        · exact hw d h
        · rwa [List.mem_singleton.1 h]
      have h := ih (w ++ [c]) hwc
      rwa [List.append_assoc, List.singleton_append] at h

/-! ### Pieces and where they stand -/

/-- `w` stands in `s` with a separator, or nothing, on either side. -/
def Delimited (p : Char → Bool) (w s : List Char) : Prop :=
  ∃ u v, s = u ++ w ++ v ∧ (∀ c ∈ u.getLast?, p c = true) ∧ ∀ c ∈ v.head?, p c = true

lemma delimited_of_mem_splitWhere {w s : List Char} (h : w ∈ splitWhere p s) :
    Delimited p w s := by
  induction s using separated_induction (p := p) with
  | free x hx =>
    rw [splitWhere_of_free hx, List.mem_singleton] at h
    exact ⟨[], [], by simp [h], by simp, by simp⟩
  | sep x c s hx hc ih =>
    rw [splitWhere_append_sep hc, splitWhere_of_free hx] at h
    rcases List.mem_cons.1 h with rfl | h
    · exact ⟨[], c :: s, by simp, by simp, by simp [hc]⟩
    · obtain ⟨u, v, rfl, hu, hv⟩ := ih (by simpa using h)
      refine ⟨x ++ c :: u, v, by simp, ?_, hv⟩
      cases u with
      | nil => simpa using hc
      | cons d u => simpa [List.getLast?_cons_cons] using hu

/-- The pieces between separators are the texts that stand between them. -/
theorem mem_splitWhere_iff {w s : List Char} (hw : ∀ c ∈ w, p c = false) :
    w ∈ splitWhere p s ↔ Delimited p w s := by
  refine ⟨delimited_of_mem_splitWhere, ?_⟩
  rintro ⟨u, v, rfl, hu, hv⟩
  have hwv : w ∈ splitWhere p (w ++ v) := by
    cases v with
    | nil => simp [splitWhere_of_free hw]
    | cons c v =>
      rw [splitWhere_append_sep (hv c (by simp)), splitWhere_of_free hw]
      simp
  rcases List.eq_nil_or_concat u with rfl | ⟨u', c, rfl⟩
  · simpa using hwv
  · have hc : p c = true := hu c (by simp)
    have e : u'.concat c ++ w ++ v = u' ++ c :: (w ++ v) := by simp
    rw [e, splitWhere_append_sep hc]
    exact List.mem_append_right _ hwv

/-! ### Runs -/

def runs (p : Char → Bool) (s : List Char) : List (List Char) :=
  (splitWhere p s).filter (· ≠ [])

lemma words_eq_runs (s : List Char) : words s = runs isBlank s := rfl

lemma mem_runs {w s : List Char} : w ∈ runs p s ↔ w ∈ splitWhere p s ∧ w ≠ [] := by
  simp [runs]

lemma count_runs {w : List Char} (hw : w ≠ []) (s : List Char) :
    (runs p s).count w = (splitWhere p s).count w :=
  List.count_filter (by simpa using hw)

lemma runs_append_sep {c : Char} (hc : p c = true) (s t : List Char) :
    runs p (s ++ c :: t) = runs p s ++ runs p t := by
  simp [runs, splitWhere_append_sep hc]

lemma runs_cons_sep {c : Char} (hc : p c = true) (s : List Char) :
    runs p (c :: s) = runs p s := by
  simp [runs, splitWhere_cons_sep hc]

lemma runs_of_free {w : List Char} (hne : w ≠ []) (hw : ∀ c ∈ w, p c = false) :
    runs p w = [w] := by
  simp [runs, splitWhere_of_free hw, hne]

@[simp] lemma runs_nil : runs p [] = [] := by simp [runs, splitWhere]

lemma runs_of_sep {b : List Char} (hb : ∀ c ∈ b, p c = true) : runs p b = [] := by
  induction b with
  | nil => exact runs_nil
  | cons c b ih => rw [runs_cons_sep (hb c (by simp)), ih fun d hd => hb d (by simp [hd])]

/-- Separators at the end leave the runs as they are. -/
lemma runs_append_of_sep {b : List Char} (hb : ∀ c ∈ b, p c = true) (s : List Char) :
    runs p (s ++ b) = runs p s := by
  cases b with
  | nil => rw [List.append_nil]
  | cons c b =>
    have hnil : runs p b = [] := runs_of_sep fun d hd => hb d (by simp [hd])
    rw [runs_append_sep (hb c (by simp)), hnil, List.append_nil]

lemma flatten_runs_of_free {w : List Char} (hw : ∀ c ∈ w, p c = false) :
    (runs p w).flatten = w := by
  by_cases hne : w = []
  · subst hne; simp
  · simp [runs_of_free hne hw]

/-- The runs hold all that is no separator. -/
lemma flatten_runs (p : Char → Bool) (s : List Char) :
    (runs p s).flatten = s.filter fun c => !p c := by
  have hfree : ∀ w : List Char, (∀ c ∈ w, p c = false) → (w.filter fun c => !p c) = w := by
    intro w hw
    rw [List.filter_eq_self]
    intro c hc
    simp [hw c hc]
  induction s using separated_induction (p := p) with
  | free w hw => rw [flatten_runs_of_free hw, hfree w hw]
  | sep w c s hw hc ih =>
    rw [runs_append_sep hc, List.flatten_append, ih, flatten_runs_of_free hw, List.filter_append,
      hfree w hw, List.filter_cons_of_neg (by simp [hc])]

lemma runs_eq_nil_iff (s : List Char) : runs p s = [] ↔ ∀ c ∈ s, p c = true := by
  refine ⟨fun h c hc => ?_, runs_of_sep⟩
  have hf := flatten_runs p s
  rw [h, List.flatten_nil, eq_comm, List.filter_eq_nil_iff] at hf
  simpa using hf c hc

/-- Coarser separators cut the runs of finer ones. -/
lemma runs_eq_flatMap {q : Char → Bool} (hqp : ∀ c, q c = true → p c = true) (s : List Char) :
    runs p s = (runs q s).flatMap (runs p) := by
  have hfree : ∀ w : List Char, (∀ c ∈ w, q c = false) →
      (runs q w).flatMap (runs p) = runs p w := by
    intro w hw
    by_cases hne : w = []
    · subst hne; simp
    · simp [runs_of_free hne hw]
  induction s using separated_induction (p := q) with
  | free w hw => rw [hfree w hw]
  | sep w c s hw hc ih =>
    rw [runs_append_sep (hqp c hc), runs_append_sep hc, List.flatMap_append, hfree w hw, ih]

lemma runs_intercalate {c : Char} (hc : p c = true) (ws : List (List Char)) :
    runs p ([c].intercalate ws) = ws.flatMap (runs p) := by
  induction ws with
  | nil => simp
  | cons w ws ih =>
    cases ws with
    | nil => simp
    | cons v vs =>
      rw [List.intercalate_cons_cons, List.append_assoc, List.singleton_append,
        runs_append_sep hc, ih]
      rfl

lemma intercalate_concat {α : Type} (separator : List α) (xs : List (List α)) (x : List α) :
    separator.intercalate (xs ++ [x]) = xs.flatMap (· ++ separator) ++ x := by
  induction xs with
  | nil => simp
  | cons y ys ih =>
    cases ys with
    | nil => simp
    | cons z zs =>
      rw [List.cons_append, List.cons_append, List.intercalate_cons_cons, ← List.cons_append, ih]
      simp only [List.flatMap_cons, List.append_assoc]

/-- Collapsing the blanks keeps the runs between separators that blanks are among. -/
theorem runs_collapse (hp : ∀ c, isBlank c = true → p c = true) (s : List Char) :
    runs p (collapse s) = runs p s := by
  have hsp : p ' ' = true := hp ' ' (by decide)
  unfold collapse
  rw [runs_intercalate hsp, words_eq_runs, ← runs_eq_flatMap hp]

def isSpace (c : Char) : Bool := c == ' '

@[simp] lemma isSpace_space : isSpace ' ' = true := rfl

lemma isSpace_eq_false {c : Char} : isSpace c = false ↔ c ≠ ' ' := beq_eq_false_iff_ne

/-- Pieces without separators, put together with one between any two, are the runs of the whole. -/
lemma runs_intercalate_of_free {c : Char} (hc : p c = true) {ws : List (List Char)}
    (hws : ∀ w ∈ ws, w ≠ [] ∧ ∀ d ∈ w, p d = false) : runs p ([c].intercalate ws) = ws := by
  rw [runs_intercalate hc]
  induction ws with
  | nil => rfl
  | cons w ws ih =>
    obtain ⟨hne, hfree⟩ := hws w (by simp)
    rw [List.flatMap_cons, runs_of_free hne hfree, ih fun v hv => hws v (by simp [hv])]
    rfl

/-- With a space as the only separator, the runs of the collapsed text are the words. -/
theorem runs_space_collapse (s : List Char) : runs isSpace (collapse s) = words s := by
  refine runs_intercalate_of_free isSpace_space fun w hw => ⟨ne_nil_of_mem_words hw, ?_⟩
  intro c hc
  have hb := not_isBlank_of_mem_words hw hc
  rw [isSpace_eq_false]
  rintro rfl
  exact absurd hb (by decide)

/-! ### Search for a run -/

lemma contains_eq_true_iff (w s : List Char) : contains w s = true ↔ w <:+: s := by
  induction s with
  | nil => simp [contains]
  | cons c s ih => simp [contains, List.infix_cons_iff, ih]

/-- A text in spaces is searched for a word in spaces: what is found is a piece of the text. -/
theorem contains_spaced_iff {w : List Char} (hne : w ≠ []) (hw : ' ' ∉ w) (s : List Char) :
    contains (' ' :: (w ++ [' '])) (' ' :: (s ++ [' '])) = true ↔ w ∈ splitWhere isSpace s := by
  have hfree : ∀ c ∈ w, isSpace c = false := by
    intro c hc
    rw [isSpace_eq_false]
    rintro rfl
    exact hw hc
  rw [contains_eq_true_iff]
  constructor
  · rintro ⟨u, v, h⟩
    -- both sides of the equation are split: the padding adds empty pieces only
    have hl : splitWhere isSpace (' ' :: (s ++ [' '])) = [] :: (splitWhere isSpace s ++ [[]]) := by
      rw [splitWhere_cons_sep isSpace_space, splitWhere_append_sep isSpace_space]
      rfl
    have hr : w ∈ splitWhere isSpace (u ++ ' ' :: (w ++ ' ' :: v)) := by
      rw [splitWhere_append_sep isSpace_space, splitWhere_append_sep isSpace_space,
        splitWhere_of_free hfree]
      simp
    have e : u ++ ' ' :: (w ++ ' ' :: v) = ' ' :: (s ++ [' ']) := by simpa using h
    rw [e, hl] at hr
    simpa [hne] using hr
  · intro h
    obtain ⟨u, v, rfl, hu, hv⟩ := (mem_splitWhere_iff hfree).1 h
    have hleft : ∃ u', ' ' :: u = u' ++ [' '] := by
      rcases List.eq_nil_or_concat u with rfl | ⟨u', c, rfl⟩
      · exact ⟨[], rfl⟩
      · have hc : c = ' ' := by simpa [isSpace] using hu c (by simp)
        exact ⟨' ' :: u', by simp [hc]⟩
    have hright : ∃ v', v ++ [' '] = ' ' :: v' := by
      cases v with
      | nil => exact ⟨[], rfl⟩
      | cons c v =>
        have hc : c = ' ' := by simpa [isSpace] using hv c (by simp)
        exact ⟨v ++ [' '], by simp [hc]⟩
    obtain ⟨u', hu'⟩ := hleft
    obtain ⟨v', hv'⟩ := hright
    refine ⟨u', v', ?_⟩
    calc u' ++ ' ' :: (w ++ [' ']) ++ v' = (u' ++ [' ']) ++ w ++ (' ' :: v') := by simp
      _ = ' ' :: (u ++ w ++ v ++ [' ']) := by rw [← hu', ← hv']; simp

def isWordEnd (c : Char) : Bool := !isWordChar c

lemma takeWhile_eq_iff {w s : List Char} (hw : ∀ c ∈ w, isWordChar c = true) :
    s.takeWhile isWordChar = w ↔ ∃ r, s = w ++ r ∧ startsInWord r = false := by
  constructor
  · rintro rfl
    refine ⟨s.dropWhile isWordChar, List.takeWhile_append_dropWhile.symm, ?_⟩
    cases h : s.dropWhile isWordChar with
    | nil => rfl
    | cons c r =>
      have := List.head?_dropWhile_not isWordChar s
      simpa [h, startsInWord] using this
  · rintro ⟨r, rfl, hr⟩
    rw [List.takeWhile_append_of_pos hw]
    cases r with
    | nil => simp
    | cons c r => simp [show isWordChar c = false from hr]

/-- Where no word character precedes, a word stands alone if it is the run that begins there. -/
lemma length_standsAlone? {w : List Char} (hw : ∀ c ∈ w, isWordChar c = true) (s : List Char) :
    (standsAlone? w false s).toList.length = if s.takeWhile isWordChar = w then 1 else 0 := by
  by_cases h : s.takeWhile isWordChar = w
  · obtain ⟨r, rfl, hr⟩ := (takeWhile_eq_iff hw).1 h
    have hpre : w.isPrefixOf? (w ++ r) = some r := by
      rw [List.isPrefixOf?_eq_some_iff_append_eq]
    simp [standsAlone?, hpre, hr, h]
  · cases hpre : w.isPrefixOf? s with
    | none => simp [standsAlone?, hpre, h]
    | some r =>
      have hs := List.isPrefixOf?_eq_some_iff_append_eq.1 hpre
      have hr : startsInWord r = true := by
        by_contra hr
        exact h ((takeWhile_eq_iff hw).2 ⟨r, hs.symm, by simpa using hr⟩)
      simp [standsAlone?, hpre, hr, h]

lemma splitWhere_cons_free {c : Char} (hc : p c = false) (s : List Char) :
    splitWhere p (c :: s) = (c :: s.takeWhile fun d => !p d) :: (splitWhere p s).tail := by
  obtain ⟨w, ws, hs⟩ := List.exists_cons_of_ne_nil (splitWhere_ne_nil p s)
  have hh := head?_splitWhere p s
  rw [hs] at hh
  simp only [List.head?_cons, Option.some.injEq] at hh
  simp [splitWhere, hc, hs, hh]

/-- Inside a run that has begun, the first run does not count. -/
lemma length_standing_aux {w : List Char} (hne : w ≠ []) (hw : ∀ c ∈ w, isWordChar c = true)
    (s : List Char) :
    (standing w false s).length = (splitWhere isWordEnd s).count w ∧
      (standing w true s).length = (splitWhere isWordEnd s).tail.count w := by
  induction s with
  | nil => simp [splitWhere, hne.symm]
  | cons c s ih =>
    have hinside : (standsAlone? w true (c :: s)).toList.length = 0 := by simp [standsAlone?]
    have houtside := length_standsAlone? hw (c :: s)
    simp only [standing, List.length_append, hinside, houtside, Nat.zero_add]
    cases hc : isWordChar c with
    | false =>
      have hsep : isWordEnd c = true := by simp [isWordEnd, hc]
      have hnil : (c :: s).takeWhile isWordChar = [] := by simp [hc]
      rw [splitWhere_cons_sep hsep, List.count_cons_of_ne hne.symm, hnil, if_neg hne.symm, ih.1]
      simp
    | true =>
      have hfree : isWordEnd c = false := by simp [isWordEnd, hc]
      have hrun : (fun d => !isWordEnd d) = isWordChar := by funext d; simp [isWordEnd]
      rw [splitWhere_cons_free hfree, hrun, List.count_cons, List.takeWhile_cons_of_pos hc, ih.2]
      refine ⟨?_, rfl⟩
      simp only [beq_iff_eq]
      omega

/-- **Standing words are runs.** A word stands alone as often as it is a run of word characters. -/
theorem length_standing {w : List Char} (hne : w ≠ []) (hw : ∀ c ∈ w, isWordChar c = true)
    (s : List Char) : (standing w false s).length = (runs isWordEnd s).count w := by
  rw [(length_standing_aux hne hw s).1, count_runs hne]

lemma standing_isEmpty_iff {w : List Char} (hne : w ≠ []) (hw : ∀ c ∈ w, isWordChar c = true)
    (s : List Char) : (standing w false s).isEmpty = false ↔ w ∈ runs isWordEnd s := by
  rw [← List.count_pos_iff, ← length_standing hne hw s, List.length_pos_iff]
  cases standing w false s <;> simp

/-! ### Blanks and runs at the head -/

lemma blanks?_append {b s : List Char} (hne : b ≠ []) (hb : ∀ c ∈ b, isBlank c = true)
    (hs : ∀ c ∈ s.head?, isBlank c = false) : blanks? (b ++ s) = some s := by
  obtain ⟨c, b, rfl⟩ := List.exists_cons_of_ne_nil hne
  have hdrop : dropBlanks (b ++ s) = s := by
    rw [dropBlanks, List.dropWhile_append_of_pos fun d hd => hb d (List.mem_cons_of_mem c hd)]
    cases s with
    | nil => rfl
    | cons d s => simp [hs d rfl]
  rw [List.cons_append, blanks?, if_pos (hb c List.mem_cons_self), hdrop]

lemma run?_append {w r : List Char} (hne : w ≠ []) (hw : ∀ c ∈ w, p c = true)
    (hr : ∀ c ∈ r.head?, p c = false) : run? p (w ++ r) = some (w, r) := by
  have htake : (w ++ r).takeWhile p = w := by
    rw [List.takeWhile_append_of_pos hw]
    cases r with
    | nil => simp
    | cons c r => simp [hr c rfl]
  have hdrop : (w ++ r).dropWhile p = r := by
    rw [List.dropWhile_append_of_pos hw]
    cases r with
    | nil => rfl
    | cons c r => simp [hr c rfl]
  rw [run?, htake, hdrop]
  obtain ⟨c, w, rfl⟩ := List.exists_cons_of_ne_nil hne
  rfl

/-! ### What follows a standing word -/

lemma isPrefixOf?_append_sep {w : List Char} {c : Char} (hc : c ∉ w) (s r : List Char) :
    w.isPrefixOf? (s ++ c :: r) = (w.isPrefixOf? s).map (· ++ c :: r) := by
  induction w generalizing s with
  | nil => simp [List.isPrefixOf?]
  | cons d w ih =>
    rw [List.mem_cons, not_or] at hc
    obtain ⟨hne, hcw⟩ := hc
    cases s with
    | nil => simp [List.isPrefixOf?, Ne.symm hne]
    | cons e s =>
      simp only [List.cons_append, List.isPrefixOf?]
      split
      · exact ih hcw s
      · rfl

section Standing

variable {w : List Char} (hw : ∀ c ∈ w, isWordChar c = true) {c : Char} (hc : isWordEnd c = true)
include hw hc

lemma standsAlone?_append_sep (inWord : Bool) (s r : List Char) :
    standsAlone? w inWord (s ++ c :: r) = (standsAlone? w inWord s).map (· ++ c :: r) := by
  have hcw : c ∉ w := by
    intro hm
    simp [isWordEnd, hw c hm] at hc
  have hstart : ∀ rest, startsInWord (rest ++ c :: r) = startsInWord rest := by
    intro rest
    cases rest with
    | nil => simpa [startsInWord, isWordEnd] using hc
    | cons d rest => rfl
  unfold standsAlone?
  rw [isPrefixOf?_append_sep hcw]
  cases inWord with
  | true => rfl
  | false =>
    cases w.isPrefixOf? s with
    | none => rfl
    | some rest =>
      simp only [Option.map_some, Option.bind_some, hstart, Bool.false_eq_true, if_false]
      split <;> rfl

/-- **Standing words part by part.** At a character that is no word character a text is searched
for a word in two parts, of which the second is searched from its beginning. -/
theorem standing_append_sep (hne : w ≠ []) (inWord : Bool) (s r : List Char) :
    standing w inWord (s ++ c :: r) =
      (standing w inWord s).map (· ++ c :: r) ++ standing w false r := by
  induction s generalizing inWord with
  | nil =>
    have hnone : standsAlone? w inWord [] = none := by
      cases w with
      | nil => exact absurd rfl hne
      | cons d w => cases inWord <;> rfl
    have hword : isWordChar c = false := by simpa [isWordEnd] using hc
    have hhead := standsAlone?_append_sep hw hc inWord [] r
    rw [hnone, List.nil_append] at hhead
    simp [standing, hhead, hword]
  | cons d s ih =>
    have hhead := standsAlone?_append_sep hw hc inWord (d :: s) r
    rw [List.cons_append] at hhead
    simp only [List.cons_append, standing, hhead, ih, List.map_append, Option.toList_map,
      List.append_assoc]

end Standing

end QueryGuard.Proofs.TextRuns
