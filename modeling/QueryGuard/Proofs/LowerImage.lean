import QueryGuard.Proofs.TextRuns
import QueryGuard.Text.LowerCase

/-!
What lower case does to a text, one character after the other.

The image of a character is one character, or two for the capital I with a dot; only a sigma
looks at its surroundings. A character that is no word character is its own image, and word
characters have images made of word characters, so lower case moves no border between runs. An
ASCII character in the image comes from the same letter in either case or from the Kelvin sign.
-/

namespace QueryGuard.Proofs.LowerImage

open Text TextRuns

/-! ### The tables -/

/-- One of the ranges holds everything from `lo` to `hi`. -/
def spans (lo hi : Nat) : List (Nat × Nat) → Bool
  | [] => false
  | r :: t => Nat.ble r.1 lo && (Nat.ble hi r.2 || spans lo hi t)

lemma inRanges_of_spans {lo hi n : Nat} {t : List (Nat × Nat)} (h : spans lo hi t = true)
    (hlo : lo ≤ n) (hhi : n ≤ hi) : inRanges n t = true := by
  induction t with
  | nil => simp [spans] at h
  | cons r t ih =>
    obtain ⟨a, b⟩ := r
    simp only [spans, Bool.and_eq_true, Bool.or_eq_true, Nat.ble_eq] at h
    obtain ⟨ha, hb | ht⟩ := h
    · have hn : ¬ n < a := by omega
      have hle : n ≤ b := by omega
      simp [inRanges, hn, hle]
    · have hn : ¬ n < a := by omega
      simp [inRanges, hn, ih ht]

lemma mapCase_eq_some {n m : Nat} {t : List CaseRun} (h : mapCase n t = some m) :
    ∃ r ∈ t, r.covers n = true ∧ r.map n = m := by
  induction t with
  | nil => simp [mapCase] at h
  | cons r t ih =>
    simp only [mapCase] at h
    split at h
    · cases h
    · split at h
      · rename_i hr
        exact ⟨r, by simp, hr, by simpa using h⟩
      · obtain ⟨r', hr', h'⟩ := ih h
        exact ⟨r', by simp [hr'], h'⟩

lemma covers_bounds {r : CaseRun} {n : Nat} (h : r.covers n = true) :
    r.first ≤ n ∧ n ≤ r.last ∧ (n - r.first) % r.stride = 0 := by
  simp only [CaseRun.covers, Bool.and_eq_true, decide_eq_true_eq, beq_iff_eq] at h
  exact ⟨h.1.1, h.1.2, h.2⟩

/-- All that the run maps is in the ranges. A run with a stride may step over gaps. -/
def sourceIn (t : List (Nat × Nat)) (r : CaseRun) : Bool :=
  spans r.first r.last t ||
    (List.range (r.last - r.first + 1)).all fun k => k % r.stride != 0 || inRanges (r.first + k) t

def imageIn (t : List (Nat × Nat)) (r : CaseRun) : Bool := spans r.image (r.map r.last) t

lemma inRanges_of_sourceIn {r : CaseRun} {n : Nat} {t : List (Nat × Nat)}
    (h : sourceIn t r = true) (hn : r.covers n = true) : inRanges n t = true := by
  obtain ⟨hlo, hhi, hk⟩ := covers_bounds hn
  simp only [sourceIn, Bool.or_eq_true, List.all_eq_true, List.mem_range] at h
  rcases h with h | h
  · exact inRanges_of_spans h hlo hhi
  · have := h (n - r.first) (by omega)
    rw [show r.first + (n - r.first) = n by omega] at this
    simpa [hk] using this

lemma inRanges_of_imageIn {r : CaseRun} {n : Nat} {t : List (Nat × Nat)}
    (h : imageIn t r = true) (hn : r.covers n = true) : inRanges (r.map n) t = true := by
  obtain ⟨hlo, hhi, -⟩ := covers_bounds hn
  refine inRanges_of_spans h ?_ ?_ <;> simp only [CaseRun.map] <;> omega

lemma lowerRuns_words :
    ∀ r ∈ lowerRuns, imageIn wordCharRanges r = true ∧ sourceIn wordCharRanges r = true := by
  decide +kernel

/-- The images are no surrogates, and none is ASCII but that of the Kelvin sign. -/
lemma lowerRuns_images :
    ∀ r ∈ lowerRuns, (r.map r.last < 0xD800 ∨ 0xDFFF < r.image ∧ r.map r.last < 0x110000) ∧
      (0x80 ≤ r.image ∧ (r.last < 0x212A ∨ 0x212A < r.first) ∨
        r.first = 0x212A ∧ r.last = 0x212A ∧ r.image = 0x6B) := by
  decide +kernel

lemma not_word_of_blank {c : Char} (h : isBlank c = true) : isWordChar c = false := by
  have hdis : ∀ q ∈ blankRanges, ∀ r ∈ wordCharRanges, r.2 < q.1 ∨ q.2 < r.1 := by decide +kernel
  obtain ⟨q, hq, hq1, hq2⟩ := exists_of_inRanges h
  by_contra hw
  have hw' : inRanges c.toNat wordCharRanges = true := by simpa [isWordChar] using hw
  obtain ⟨r, hr, hr1, hr2⟩ := exists_of_inRanges hw'
  have := hdis q hq r hr
  omega

/-! ### One character -/

/-- The ASCII character that a character becomes, if it becomes one. -/
def asciiLower (c : Char) : Option Char :=
  if c.toNat < 0x80 then some c.toLower else if c.toNat = 0x212A then some 'k' else none

/-- The images of a character. That of a sigma depends on where it stands. -/
inductive IsImage (c : Char) : List Char → Prop
  | alone : IsImage c (lowerChar c)
  | final (h : c = 'Σ') : IsImage c ['ς']

lemma toNat_ofNat_map {r : CaseRun} {n : Nat} (hr : r ∈ lowerRuns) (hn : r.covers n = true) :
    (Char.ofNat (r.map n)).toNat = r.map n := by
  obtain ⟨hlo, hhi, -⟩ := covers_bounds hn
  have hv := (lowerRuns_images r hr).1
  have hvalid : (r.map n).isValidChar := by
    simp only [CaseRun.map, Nat.isValidChar] at hv ⊢
    omega
  rw [Char.ofNat, dif_pos hvalid]
  rfl

/-- A character outside ASCII that is not the dotted I is mapped by the table or is left alone. -/
lemma lowerChar_table {c : Char} (hc : 0x80 ≤ c.toNat) (hi : c.toNat ≠ 0x130) :
    lowerChar c = [c] ∨
      ∃ r ∈ lowerRuns, r.covers c.toNat = true ∧ lowerChar c = [Char.ofNat (r.map c.toNat)] := by
  have hlow : ¬ c.toNat < 0x80 := by omega
  cases hm : mapCase c.toNat lowerRuns with
  | none => exact .inl (by simp [lowerChar, hlow, hi, hm])
  | some m =>
    obtain ⟨r, hr, hn, rfl⟩ := mapCase_eq_some hm
    exact .inr ⟨r, hr, hn, by simp [lowerChar, hlow, hi, hm]⟩

lemma lowerChar_ascii {c : Char} (hc : c.toNat < 0x80) : lowerChar c = [c.toLower] := by
  simp [lowerChar, hc]

lemma lowerChar_dotted {c : Char} (hc : c.toNat = 0x130) :
    lowerChar c = ['i', Char.ofNat 0x307] := by
  simp [lowerChar, hc]

lemma ascii_induction {motive : Char → Prop} (h : ∀ n < 0x80, motive (Char.ofNat n)) {c : Char}
    (hc : c.toNat < 0x80) : motive c := by
  simpa using h c.toNat hc

lemma toLower_of_not_ascii {c : Char} (hc : 0x80 ≤ c.toNat) : c.toLower = c := by
  unfold Char.toLower
  rw [dif_neg]
  rintro ⟨-, hz⟩
  have hz' : c.toNat ≤ 90 := hz
  omega

lemma toNat_toLower_lt {c : Char} (hc : c.toNat < 0x80) : c.toLower.toNat < 0x80 :=
  ascii_induction (motive := fun c => c.toLower.toNat < 0x80) (by decide +kernel) hc

lemma toNat_lt_of_isDigit {c : Char} (h : c.isDigit = true) : c.toNat < 0x80 := by
  simp only [Char.isDigit, Bool.and_eq_true, decide_eq_true_eq] at h
  have hle : c.toNat ≤ 57 := h.2
  omega

lemma toNat_lt_of_isLower {c : Char} (h : c.isLower = true) : c.toNat < 0x80 := by
  have hz : c.val ≤ 'z'.val := of_decide_eq_true (Bool.and_eq_true_iff.1 h).2
  have hle : c.toNat ≤ 122 := hz
  omega

lemma toNat_lt_of_isUpper {c : Char} (h : c.isUpper = true) : c.toNat < 0x80 := by
  have hz : c.val ≤ 'Z'.val := (of_decide_eq_true h).2
  have hle : c.toNat ≤ 90 := hz
  omega

lemma toNat_lt_of_isAlphanum {c : Char} (h : c.isAlphanum = true) : c.toNat < 0x80 := by
  rcases Bool.or_eq_true_iff.1 h with halpha | hdigit
  · rcases Bool.or_eq_true_iff.1 halpha with hupper | hlower
    · exact toNat_lt_of_isUpper hupper
    · exact toNat_lt_of_isLower hlower
  · exact toNat_lt_of_isDigit hdigit

lemma toLower_of_isDigit {c : Char} (h : c.isDigit = true) : c.toLower = c :=
  ascii_induction (motive := fun c => c.isDigit = true → c.toLower = c) (by decide +kernel)
    (toNat_lt_of_isDigit h) h

lemma isWordChar_toLower (c : Char) : isWordChar c.toLower = isWordChar c := by
  by_cases hc : c.toNat < 0x80
  · exact ascii_induction (motive := fun c => isWordChar c.toLower = isWordChar c)
      (by decide +kernel) hc
  · rw [toLower_of_not_ascii (by omega)]

/-- The image of a character is an ASCII character, the dotted i, or a character that is not
ASCII. -/
theorem image_cases {c : Char} {t : List Char} (h : IsImage c t) :
    (∃ d, asciiLower c = some d ∧ t = [d] ∧ d.toNat < 0x80) ∨
      (asciiLower c = none ∧ t = ['i', Char.ofNat 0x307]) ∨
      ∃ d, asciiLower c = none ∧ t = [d] ∧ 0x80 ≤ d.toNat := by
  cases h with
  | final h => subst h; exact .inr (.inr ⟨'ς', by decide, rfl, by decide⟩)
  | alone =>
    by_cases hc : c.toNat < 0x80
    · exact .inl ⟨c.toLower, by simp [asciiLower, hc], lowerChar_ascii hc, toNat_toLower_lt hc⟩
    · by_cases hi : c.toNat = 0x130
      · exact .inr (.inl ⟨by simp [asciiLower, hi], lowerChar_dotted hi⟩)
      · rcases lowerChar_table (by omega) hi with ht | ⟨r, hr, hn, ht⟩
        · by_cases hk : c.toNat = 0x212A
          · have hck : c = Char.ofNat 0x212A := by rw [← Char.ofNat_toNat c, hk]
            subst hck
            exact absurd ht (by decide +kernel)
          · exact .inr (.inr ⟨c, by simp [asciiLower, hc, hk], ht, by omega⟩)
        · obtain ⟨hlo, hhi, -⟩ := covers_bounds hn
          have hd := toNat_ofNat_map hr hn
          rcases (lowerRuns_images r hr).2 with hb | ⟨h1, h2, h3⟩
          · have hk : c.toNat ≠ 0x212A := by omega
            refine .inr (.inr ⟨_, by simp [asciiLower, hc, hk], ht, ?_⟩)
            rw [hd, CaseRun.map]
            omega
          · have hk : c.toNat = 0x212A := by omega
            refine .inl ⟨'k', by simp [asciiLower, hk], ?_, by decide⟩
            rw [ht, CaseRun.map, hk, h1, h3]

lemma image_ne_nil {c : Char} {t : List Char} (h : IsImage c t) : t ≠ [] := by
  rcases image_cases h with ⟨d, -, rfl, -⟩ | ⟨-, rfl⟩ | ⟨d, -, rfl, -⟩ <;> simp

/-- Lower case makes no word character and unmakes none. -/
theorem isWordChar_image {c : Char} {t : List Char} (h : IsImage c t) {d : Char} (hd : d ∈ t) :
    isWordChar d = isWordChar c := by
  cases h with
  | final h =>
    subst h
    rw [List.mem_singleton.1 hd]
    decide +kernel
  | alone =>
    by_cases hc : c.toNat < 0x80
    · rw [lowerChar_ascii hc] at hd
      rw [List.mem_singleton.1 hd, isWordChar_toLower]
    · by_cases hi : c.toNat = 0x130
      · have hw : isWordChar c = true := by rw [isWordChar, hi]; decide +kernel
        rw [lowerChar_dotted hi] at hd
        rw [hw]
        rcases List.mem_cons.1 hd with rfl | hd
        · decide +kernel
        · rw [List.mem_singleton.1 hd]
          decide +kernel
      · rcases lowerChar_table (by omega) hi with ht | ⟨r, hr, hn, ht⟩
        · rw [ht] at hd
          rw [List.mem_singleton.1 hd]
        · obtain ⟨himage, hsource⟩ := lowerRuns_words r hr
          rw [ht] at hd
          rw [List.mem_singleton.1 hd, isWordChar, isWordChar, toNat_ofNat_map hr hn,
            inRanges_of_imageIn himage hn, inRanges_of_sourceIn hsource hn]

/-- What is no word character is its own lower case. -/
theorem image_of_not_word {c : Char} {t : List Char} (h : IsImage c t)
    (hc : isWordChar c = false) : t = [c] := by
  cases h with
  | final h => subst h; exact absurd hc (by decide +kernel)
  | alone =>
    by_cases ha : c.toNat < 0x80
    · rw [lowerChar_ascii ha]
      have hlow : isWordChar c = false → c.toLower = c :=
        ascii_induction (motive := fun c => isWordChar c = false → c.toLower = c)
          (by decide +kernel) ha
      rw [hlow hc]
    · by_cases hi : c.toNat = 0x130
      · rw [isWordChar, hi] at hc
        exact absurd hc (by decide +kernel)
      · rcases lowerChar_table (by omega) hi with ht | ⟨r, hr, hn, -⟩
        · exact ht
        · rw [isWordChar, inRanges_of_sourceIn (lowerRuns_words r hr).2 hn] at hc
          cases hc

/-! ### A whole text -/

/-- `t` is `s` in lower case, whichever sigmas count as final. -/
inductive Lowered : List Char → List Char → Prop
  | nil : Lowered [] []
  | cons {c : Char} {image s t : List Char} (h : IsImage c image) (hs : Lowered s t) :
      Lowered (c :: s) (image ++ t)

lemma lowered_lowerFrom (before s : List Char) : Lowered s (lowerFrom before s) := by
  induction s generalizing before with
  | nil => exact .nil
  | cons c s ih =>
    refine .cons ?_ (ih (c :: before))
    split
    · rename_i hc
      have hsigma : c = 'Σ' := by rw [← Char.ofNat_toNat c, hc]
      split
      · exact .final hsigma
      · have halone : lowerChar c = [Char.ofNat 0x3C3] := by
          subst hsigma
          decide +kernel
        rw [← halone]
        exact .alone
    · exact .alone

lemma lowered_append {s s' t : List Char} (h : Lowered (s ++ s') t) :
    ∃ u u', t = u ++ u' ∧ Lowered s u ∧ Lowered s' u' := by
  induction s generalizing t with
  | nil => exact ⟨[], t, rfl, .nil, h⟩
  | cons c s ih =>
    cases h with
    | cons hc hs =>
      obtain ⟨u, u', rfl, hu, hu'⟩ := ih hs
      exact ⟨_, u', by rw [List.append_assoc], .cons hc hu, hu'⟩

/-- What is no word character cuts a text and its lower case at the same place. -/
lemma lowered_append_sep {c : Char} (hc : isWordChar c = false) {s s' t : List Char}
    (h : Lowered (s ++ c :: s') t) : ∃ u u', t = u ++ c :: u' ∧ Lowered s u ∧ Lowered s' u' := by
  obtain ⟨u, v, rfl, hu, hv⟩ := lowered_append h
  cases hv with
  | @cons _ image _ u' himage hu' =>
    rw [image_of_not_word himage hc, List.singleton_append]
    exact ⟨u, u', rfl, hu, hu'⟩

lemma lowered_lower (s : List Char) : Lowered s (lower s) := lowered_lowerFrom [] s

/-- Separators that are no word characters cut a text and its lower case at the same places. -/
theorem splitWhere_lowered {p : Char → Bool} (hp : ∀ c, p c = true → isWordChar c = false)
    {s t : List Char} (h : Lowered s t) :
    List.Forall₂ Lowered (splitWhere p s) (splitWhere p t) := by
  induction h with
  | nil => exact .cons .nil .nil
  | @cons c image s t hc hs ih =>
    cases hpc : p c with
    | true =>
      rw [image_of_not_word hc (hp c hpc), List.singleton_append, splitWhere_cons_sep hpc,
        splitWhere_cons_sep hpc]
      exact .cons .nil ih
    | false =>
      have hfree : ∀ d ∈ image, p d = false := by
        intro d hd
        cases hw : isWordChar c with
        | true =>
          by_contra hpd
          have := hp d (by simpa using hpd)
          rw [isWordChar_image hc hd, hw] at this
          cases this
        | false =>
          rw [image_of_not_word hc hw, List.mem_singleton] at hd
          rw [hd, hpc]
      rw [splitWhere_append_free hfree, show c :: s = [c] ++ s from rfl,
        splitWhere_append_free (by simpa using hpc)]
      generalize splitWhere p s = ss at ih
      generalize splitWhere p t = ts at ih
      cases ih with
      | nil => exact .nil
      | cons hw hws => exact .cons (.cons hc hw) hws

lemma lowered_eq_nil_iff {s t : List Char} (h : Lowered s t) : s = [] ↔ t = [] := by
  cases h with
  | nil => simp
  | cons hc hs => simp [image_ne_nil hc]

theorem runs_lowered {p : Char → Bool} (hp : ∀ c, p c = true → isWordChar c = false)
    {s t : List Char} (h : Lowered s t) : List.Forall₂ Lowered (runs p s) (runs p t) := by
  have h2 := splitWhere_lowered hp h
  unfold runs
  generalize splitWhere p s = ss at h2
  generalize splitWhere p t = ts at h2
  induction h2 with
  | nil => exact .nil
  | @cons u v us vs huv _ ih =>
    by_cases hu : u = []
    · have hv := (lowered_eq_nil_iff huv).1 hu
      rwa [List.filter_cons_of_neg (by simp [hu]), List.filter_cons_of_neg (by simp [hv])]
    · have hv : v ≠ [] := fun hv => hu ((lowered_eq_nil_iff huv).2 hv)
      rw [List.filter_cons_of_pos (by simp [hu]), List.filter_cons_of_pos (by simp [hv])]
      exact .cons huv ih

/-! ### ASCII words -/

def Ascii (w : List Char) : Prop := ∀ c ∈ w, c.toNat < 0x80

instance (w : List Char) : Decidable (Ascii w) :=
  decidable_of_iff ((w.all fun c => decide (c.toNat < 0x80)) = true) (by simp [Ascii])

/-- The lower case of a text is an ASCII word if every character becomes the one of the word. -/
theorem lowered_eq_iff {s t w : List Char} (h : Lowered s t) (hw : Ascii w) :
    t = w ↔ s.map asciiLower = w.map some := by
  induction h generalizing w with
  | nil => cases w <;> simp
  | @cons c image s t hc hs ih =>
    cases w with
    | nil => simp [image_ne_nil hc]
    | cons d w =>
      have hd : d.toNat < 0x80 := hw d (by simp)
      have hw' : Ascii w := fun e he => hw e (by simp [he])
      rcases image_cases hc with ⟨e, ha, rfl, -⟩ | ⟨ha, rfl⟩ | ⟨e, ha, rfl, he⟩
      · simp [ha, ih hw']
      · suffices 'i' :: Char.ofNat 0x307 :: t ≠ d :: w by simpa [ha] using this
        rintro h
        obtain ⟨-, rfl⟩ := List.cons.inj h
        exact absurd (hw' (Char.ofNat 0x307) (by simp)) (by decide)
      · have hne : e ≠ d := by rintro rfl; omega
        simp [ha, hne]

/-- What no two-character image ends on can be looked for at the head of a text as well. -/
theorem prefix_lowered_iff {s t w : List Char} (h : Lowered s t) (hw : Ascii w)
    (hi : w.getLast? ≠ some 'i') :
    w <+: t ↔ w.map some <+: s.map asciiLower := by
  induction h generalizing w with
  | nil => cases w <;> simp
  | @cons c image s t hc hs ih =>
    cases w with
    | nil => simp
    | cons d w =>
      have hd : d.toNat < 0x80 := hw d (by simp)
      have hw' : Ascii w := fun e he => hw e (by simp [he])
      have hi' : w.getLast? ≠ some 'i' := by
        cases w with
        | nil => simp
        | cons e w => rwa [List.getLast?_cons_cons] at hi
      rcases image_cases hc with ⟨e, ha, rfl, -⟩ | ⟨ha, rfl⟩ | ⟨e, ha, rfl, he⟩
      · simp [ha, ih hw' hi', List.cons_prefix_cons]
      · suffices ¬ d :: w <+: 'i' :: Char.ofNat 0x307 :: t by
          simpa [ha, List.cons_prefix_cons] using this
        rw [List.cons_prefix_cons]
        rintro ⟨rfl, h⟩
        cases w with
        | nil => simp at hi
        | cons e w =>
          rw [List.cons_prefix_cons] at h
          exact absurd (hw' e (by simp)) (by rw [h.1]; decide)
      · have hne : d ≠ e := by rintro rfl; omega
        simp [ha, hne, List.cons_prefix_cons]

/-- ASCII letters are changed one by one, wherever they stand. -/
lemma eq_map_toLower_of_lowered {s t : List Char} (h : Lowered s t) (hs : Ascii s) :
    t = s.map Char.toLower := by
  have hmap : s.map asciiLower = (s.map Char.toLower).map some := by
    rw [List.map_map]
    refine List.map_congr_left fun c hc => ?_
    simp [asciiLower, hs c hc]
  rw [lowered_eq_iff h, hmap]
  intro d hd
  obtain ⟨c, hc, rfl⟩ := List.mem_map.1 hd
  exact toNat_toLower_lt (hs c hc)

lemma toLower_eq_iff {c d : Char} (hd : d.toNat < 0x80) (hk : d ≠ 'k') :
    c.toLower = d ↔ asciiLower c = some d := by
  unfold asciiLower
  by_cases hc : c.toNat < 0x80
  · simp [hc]
  · have hne : c ≠ d := by rintro rfl; exact hc hd
    rw [toLower_of_not_ascii (by omega)]
    by_cases h : c.toNat = 0x212A
    · simp [h, hne, Ne.symm hk]
    · simp [hc, h, hne]

/-- Without a k to mistake the Kelvin sign for, changing ASCII letters only finds the same words. -/
lemma map_toLower_eq_iff {s w : List Char} (hw : Ascii w) (hk : 'k' ∉ w) :
    s.map Char.toLower = w ↔ s.map asciiLower = w.map some := by
  induction s generalizing w with
  | nil => cases w <;> simp
  | cons c s ih =>
    cases w with
    | nil => simp
    | cons d w =>
      have hd := toLower_eq_iff (c := c) (hw d (by simp)) (by rintro rfl; simp at hk)
      have hs := ih (w := w) (fun e he => hw e (by simp [he])) (fun h => hk (by simp [h]))
      simp only [List.map_cons, List.cons.injEq, hd, hs]

lemma infix_map_asciiLower_iff {s t w : List Char} (h : Lowered s t) (hw : Ascii w)
    (hi : w.getLast? ≠ some 'i') : w <:+: t ↔ w.map some <:+: s.map asciiLower := by
  induction h with
  | nil => simp
  | @cons c image s t hc hs ih =>
    have hprefix := prefix_lowered_iff (.cons hc hs) hw hi
    rw [List.map_cons] at hprefix
    rw [List.map_cons, List.infix_cons_iff, ← ih, ← hprefix]
    rcases image_cases hc with ⟨d, -, rfl, -⟩ | ⟨-, rfl⟩ | ⟨d, -, rfl, -⟩
    · exact List.infix_cons_iff
    · -- no ASCII word begins with the combining dot
      have hdot : w <+: Char.ofNat 0x307 :: t → w <:+: t := by
        intro hp
        cases w with
        | nil => exact List.nil_infix
        | cons d w =>
          obtain ⟨rfl, -⟩ := List.cons_prefix_cons.1 hp
          exact absurd (hw _ List.mem_cons_self) (by decide)
      simp only [List.cons_append, List.nil_append, List.infix_cons_iff]
      tauto
    · exact List.infix_cons_iff

/-- Without a k, and without an i at its end, a word occurs in the lower case of a text where it
occurs once the ASCII letters are changed. -/
lemma infix_lowered_iff {s t w : List Char} (h : Lowered s t) (hw : Ascii w)
    (hi : w.getLast? ≠ some 'i') (hk : 'k' ∉ w) : w <:+: t ↔ w <:+: s.map Char.toLower := by
  rw [infix_map_asciiLower_iff h hw hi, List.infix_map_iff, List.infix_map_iff]
  refine exists_congr fun u => and_congr_right fun _ => ?_
  rw [eq_comm, ← map_toLower_eq_iff hw hk, eq_comm]

lemma toLower_of_asciiLower {c d : Char} (h : asciiLower c = some d) : d.toLower = d := by
  unfold asciiLower at h
  split at h
  · rename_i hc
    obtain rfl := Option.some.inj h
    exact ascii_induction (motive := fun c => c.toLower.toLower = c.toLower) (by decide +kernel) hc
  · split at h
    · obtain rfl := Option.some.inj h
      decide
    · cases h

lemma map_toLower_lowered {s t : List Char} (h : Lowered s t) : t.map Char.toLower = t := by
  induction h with
  | nil => rfl
  | @cons c image s t hc hs ih =>
    rw [List.map_append, ih]
    rcases image_cases hc with ⟨d, ha, rfl, -⟩ | ⟨-, rfl⟩ | ⟨d, -, rfl, hd⟩
    · simp [toLower_of_asciiLower ha]
    · rw [show List.map Char.toLower ['i', Char.ofNat 0x307] = ['i', Char.ofNat 0x307] by decide]
    · simp [toLower_of_not_ascii hd]

lemma mem_image_iff {c x : Char} {t : List Char} (h : IsImage c t) (hx : isWordChar x = false) :
    x ∈ t ↔ x = c := by
  constructor
  · intro hm
    have hc : isWordChar c = false := by rw [← isWordChar_image h hm, hx]
    rw [image_of_not_word h hc] at hm
    exact List.mem_singleton.1 hm
  · rintro rfl
    rw [image_of_not_word h hx]
    simp

/-- A sign that is no word character stays, and none comes in. -/
lemma sign_mem_lowered_iff {s t : List Char} (h : Lowered s t) {x : Char}
    (hx : isWordChar x = false) : x ∈ t ↔ x ∈ s := by
  induction h with
  | nil => rfl
  | cons hc _ ih => rw [List.mem_append, List.mem_cons, mem_image_iff hc hx, ih]

/-- A sign in front of the last character stays in front of the last character. -/
theorem mem_dropLast_lowered {s t : List Char} (h : Lowered s t) {x : Char}
    (hx : isWordChar x = false) : x ∈ t.dropLast ↔ x ∈ s.dropLast := by
  induction h with
  | nil => simp
  | @cons c image s t hc hs ih =>
    by_cases hnil : s = []
    · have ht : t = [] := (lowered_eq_nil_iff hs).1 hnil
      subst hnil ht
      suffices x ∉ image.dropLast by simpa using this
      intro hm
      have hxc := (mem_image_iff hc hx).1 ((List.dropLast_sublist _).subset hm)
      rw [image_of_not_word hc (hxc ▸ hx)] at hm
      simp at hm
    · have ht : t ≠ [] := fun ht => hnil ((lowered_eq_nil_iff hs).2 ht)
      rw [List.dropLast_append_of_ne_nil ht, List.dropLast_cons_of_ne_nil hnil, List.mem_append,
        List.mem_cons, mem_image_iff hc hx, ih]

end QueryGuard.Proofs.LowerImage
