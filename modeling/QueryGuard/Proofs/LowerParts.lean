import QueryGuard.Proofs.LowerImage

/-!
Lower case, part by part.

A text is its own lower case exactly when each of its characters is, so what is put together from
such texts is one as well. Other texts do not come apart as easily, for a sigma looks at what stands
around it; a sign that has no case and is not passed over when cases are looked for leaves the text
in front of it as it would be alone.
-/

namespace QueryGuard.Proofs.LowerParts

open Text LowerImage

/-! ### Texts in lower case -/

/-- The character is its own lower case wherever it stands. -/
def IsLow (c : Char) : Prop := c.toNat ≠ 0x3A3 ∧ lowerChar c = [c]

instance (c : Char) : Decidable (IsLow c) := inferInstanceAs (Decidable (_ ∧ _))

lemma length_le_of_lowered {s t : List Char} (h : Lowered s t) : s.length ≤ t.length := by
  induction h with
  | nil => exact Nat.le_refl _
  | cons himage _ ih =>
    have hpos := List.length_pos_iff.2 (image_ne_nil himage)
    rw [List.length_cons, List.length_append]
    omega

lemma lowerFrom_cons_eq_self_iff {c : Char} (before s : List Char) :
    lowerFrom before (c :: s) = c :: s ↔ IsLow c ∧ lowerFrom (c :: before) s = s := by
  rw [lowerFrom, IsLow]
  by_cases hc : c.toNat = 0x3A3
  · have hsigma : c = 'Σ' := by rw [← Char.ofNat_toNat c, hc]
    have hlow : Char.ofNat 0x3C2 ≠ 'Σ' ∧ Char.ofNat 0x3C3 ≠ 'Σ' := by decide
    subst hsigma
    simp only [if_pos hc, List.singleton_append, List.cons.injEq]
    split <;> simp [hlow]
  · have hrest := length_le_of_lowered (lowered_lowerFrom (c :: before) s)
    have hne := image_ne_nil (.alone (c := c))
    simp only [if_neg hc]
    generalize lowerFrom (c :: before) s = t at hrest ⊢
    constructor
    · intro h
      obtain ⟨d, ds, himage⟩ := List.exists_cons_of_ne_nil hne
      rw [himage, List.cons_append, List.cons.injEq] at h
      -- the rest of the text is at least as long as before, so the image has one character
      have hnil : ds = [] := by
        have hlength := congrArg List.length h.2
        rw [List.length_append] at hlength
        rw [← List.length_eq_zero_iff]
        omega
      rw [hnil, List.nil_append] at h
      exact ⟨⟨hc, by rw [himage, hnil, h.1]⟩, h.2⟩
    · rintro ⟨⟨-, himage⟩, h⟩
      rw [himage, h, List.singleton_append]

lemma lowerFrom_eq_self_iff (before s : List Char) :
    lowerFrom before s = s ↔ ∀ c ∈ s, IsLow c := by
  induction s generalizing before with
  | nil => simp [lowerFrom]
  | cons c s ih => rw [lowerFrom_cons_eq_self_iff, ih, List.forall_mem_cons]

/-- **A text in lower case** is one of characters in lower case. -/
lemma lowerCase_eq_self_iff (s : String) : lowerCase s = s ↔ ∀ c ∈ s.toList, IsLow c := by
  rw [← String.toList_inj, toList_lowerCase]
  exact lowerFrom_eq_self_iff [] s.toList

lemma isLow_of_ascii {c : Char} (hc : c.toNat < 0x80) (h : c.toLower = c) : IsLow c := by
  refine ⟨by omega, ?_⟩
  rw [lowerChar_ascii hc, h]

/-- Nothing that one run maps to is mapped by the other: their ranges lie apart, or both go in steps
of two from places of different parity. -/
def apart (r q : CaseRun) : Bool :=
  Nat.blt (r.map r.last) q.first || Nat.blt q.last r.image ||
    (Nat.beq q.stride 2 && (Nat.beq r.stride 2 || Nat.beq r.first r.last) &&
      Nat.beq ((r.image + q.first) % 2) 1)

lemma not_covers_of_apart {r q : CaseRun} (h : apart r q = true) {n : Nat}
    (hn : r.covers n = true) : q.covers (r.map n) = false := by
  by_contra hq
  obtain ⟨hlo, hhi, hstep⟩ := covers_bounds hn
  obtain ⟨hqlo, hqhi, hqstep⟩ := covers_bounds (by simpa using hq)
  simp only [apart, Bool.or_eq_true, Bool.and_eq_true, Nat.blt_eq, Nat.beq_eq,
    CaseRun.map] at h hqlo hqhi hqstep
  rcases h with (h | h) | ⟨⟨htwo, h⟩, hodd⟩
  · omega
  · omega
  · rw [htwo] at hqstep
    have heven : (n - r.first) % 2 = 0 := by
      rcases h with h | h
      · rwa [h] at hstep
      · omega
    omega

/-- The dotted capital I, which is no character that others become. -/
def dotted : CaseRun := ⟨0x130, 0x130, 1, 0x69⟩

lemma lowerRuns_apart : ∀ r ∈ lowerRuns, ∀ q ∈ dotted :: lowerRuns, apart r q = true := by
  decide +kernel

/-- What the table maps to is left alone by the table. -/
lemma isLow_of_run {r : CaseRun} (hr : r ∈ lowerRuns) {n : Nat} (hn : r.covers n = true) :
    IsLow (Char.ofNat (r.map n)) := by
  have hapart : ∀ q ∈ dotted :: lowerRuns, q.covers (r.map n) = false := fun q hq =>
    not_covers_of_apart (lowerRuns_apart r hr q hq) hn
  have hunmapped : mapCase (r.map n) lowerRuns = none := by
    by_contra hm
    obtain ⟨m, hm⟩ := Option.ne_none_iff_exists'.1 hm
    obtain ⟨q, hq, hcovers, -⟩ := mapCase_eq_some hm
    rw [hapart q (List.mem_cons_of_mem _ hq)] at hcovers
    cases hcovers
  have hi : r.map n ≠ 0x130 := by
    intro hi
    have hno := hapart dotted List.mem_cons_self
    rw [hi] at hno
    revert hno
    decide
  have hsigma : r.map n ≠ 0x3A3 := by
    intro hs
    rw [hs] at hunmapped
    revert hunmapped
    decide +kernel
  obtain ⟨hlo, -, -⟩ := covers_bounds hn
  have hd := toNat_ofNat_map hr hn
  refine ⟨by rwa [hd], ?_⟩
  rcases (lowerRuns_images r hr).2 with ⟨himage, -⟩ | ⟨hfirst, hlast, himage⟩
  · have hascii : ¬r.map n < 0x80 := by
      rw [CaseRun.map]
      omega
    rw [lowerChar, hd, if_neg hascii, if_neg hi, hunmapped]
    rfl
  · -- the Kelvin sign becomes a letter that is in lower case
    obtain ⟨-, hhi, -⟩ := covers_bounds hn
    have hk : r.map n = 0x6B := by
      rw [CaseRun.map]
      omega
    rw [hk]
    decide

lemma isLow_of_image {c : Char} {t : List Char} (h : IsImage c t) {d : Char} (hd : d ∈ t) :
    IsLow d := by
  cases h with
  | final h =>
    rw [List.mem_singleton.1 hd]
    decide +kernel
  | alone =>
    by_cases hc : c.toNat < 0x80
    · rw [lowerChar_ascii hc] at hd
      rw [List.mem_singleton.1 hd]
      exact isLow_of_ascii (toNat_toLower_lt hc)
        (toLower_of_asciiLower (c := c) (by simp [asciiLower, hc]))
    · by_cases hi : c.toNat = 0x130
      · rw [lowerChar_dotted hi, List.mem_pair] at hd
        rcases hd with rfl | rfl <;> decide +kernel
      · rcases lowerChar_table (by omega) hi with ht | ⟨r, hr, hn, ht⟩
        · rw [ht] at hd
          rw [List.mem_singleton.1 hd]
          refine ⟨fun hs => ?_, ht⟩
          rw [← Char.ofNat_toNat c, hs] at ht
          revert ht
          decide +kernel
        · rw [ht] at hd
          rw [List.mem_singleton.1 hd]
          exact isLow_of_run hr hn

lemma exists_image_of_mem {s t : List Char} (h : Lowered s t) {d : Char} (hd : d ∈ t) :
    ∃ c ∈ s, ∃ image, IsImage c image ∧ d ∈ image := by
  induction h with
  | nil => cases hd
  | @cons c image s t hc hs ih =>
    rcases List.mem_append.1 hd with hd | hd
    · exact ⟨c, by simp, image, hc, hd⟩
    · obtain ⟨c', hc', hrest⟩ := ih hd
      exact ⟨c', by simp [hc'], hrest⟩

/-- **Lower case is stable.** A lower case is its own lower case, whichever sigmas were final. -/
lemma lower_lower (s : List Char) : lower (lower s) = lower s := by
  refine (lowerFrom_eq_self_iff [] (lower s)).2 fun d hd => ?_
  obtain ⟨c, -, image, hc, hd⟩ := exists_image_of_mem (lowered_lower s) hd
  exact isLow_of_image hc hd

/-! ### Signs between which nothing changes -/

lemma meetsCased_cons (c : Char) (s : List Char) :
    meetsCased (c :: s) = if isCaseIgnorable c then meetsCased s else isCased c := by
  unfold meetsCased
  by_cases hc : isCaseIgnorable c = true
  · rw [List.dropWhile_cons_of_pos hc, if_pos hc]
  · rw [List.dropWhile_cons_of_neg hc, if_neg hc]

/-- Of the text in front only that counts. -/
lemma lowerFrom_congr {before before' : List Char} (h : meetsCased before = meetsCased before')
    (s : List Char) : lowerFrom before s = lowerFrom before' s := by
  induction s generalizing before before' with
  | nil => rfl
  | cons c s ih =>
    have hnext : meetsCased (c :: before) = meetsCased (c :: before') := by
      rw [meetsCased_cons, meetsCased_cons, h]
    rw [lowerFrom, lowerFrom, h, ih hnext]

section Sign

variable {c : Char} (hcase : isCased c = false) (hseen : isCaseIgnorable c = false)
include hcase hseen

lemma meetsCased_append (s r : List Char) : meetsCased (s ++ c :: r) = meetsCased s := by
  induction s with
  | nil =>
    rw [List.nil_append, meetsCased_cons, hseen, hcase]
    rfl
  | cons d s ih => rw [List.cons_append, meetsCased_cons, meetsCased_cons, ih]

lemma lowerFrom_append (hlow : IsLow c) (before s r : List Char) :
    lowerFrom before (s ++ c :: r) = lowerFrom before s ++ c :: lower r := by
  induction s generalizing before with
  | nil =>
    have hfront : meetsCased (c :: before) = meetsCased [] := by
      rw [meetsCased_cons, hseen, hcase]
      rfl
    simp [lowerFrom, hlow.1, hlow.2, lowerFrom_congr hfront, lower]
  | cons d s ih =>
    rw [List.cons_append, lowerFrom, lowerFrom, ih, meetsCased_append hcase hseen,
      List.append_assoc]

end Sign

/-- A semicolon behind a text changes nothing in front of it. -/
lemma lower_semicolon (s : List Char) : lower (s ++ [';']) = lower s ++ [';'] := by
  have hcase : isCased ';' = false := by decide +kernel
  have hseen : isCaseIgnorable ';' = false := by decide +kernel
  exact lowerFrom_append hcase hseen (by decide +kernel) [] s []

lemma blank_signs {c : Char} (h : isBlank c = true) :
    isCased c = false ∧ isCaseIgnorable c = false ∧ IsLow c := by
  have hall : ∀ r ∈ blankRanges, ∀ k < r.2 + 1 - r.1, isCased (Char.ofNat (r.1 + k)) = false ∧
      isCaseIgnorable (Char.ofNat (r.1 + k)) = false ∧ IsLow (Char.ofNat (r.1 + k)) := by
    decide +kernel
  obtain ⟨r, hr, hlo, hhi⟩ := exists_of_inRanges h
  have hc := hall r hr (c.toNat - r.1) (by omega)
  rwa [Nat.add_sub_cancel' hlo, Char.ofNat_toNat] at hc

/-- Blanks stay as they are, and what stands around them has its lower case by itself. -/
lemma lower_append_blanks {g : List Char} (hne : g ≠ []) (hg : ∀ c ∈ g, isBlank c = true)
    (s r : List Char) : lower (s ++ (g ++ r)) = lower s ++ (g ++ lower r) := by
  induction g generalizing s with
  | nil => exact absurd rfl hne
  | cons b g ih =>
    obtain ⟨hcase, hseen, hlow⟩ := blank_signs (hg b List.mem_cons_self)
    have hhead : lower (s ++ b :: (g ++ r)) = lower s ++ b :: lower (g ++ r) :=
      lowerFrom_append hcase hseen hlow [] s (g ++ r)
    rw [List.cons_append, hhead]
    cases g with
    | nil => rfl
    | cons d g =>
      have hrest := ih (by simp) (fun c hc => hg c (List.mem_cons_of_mem b hc)) []
      rw [List.nil_append] at hrest
      rw [hrest]
      rfl

/-- Lower case goes word by word. -/
lemma lower_intercalate (ws : List (List Char)) :
    lower ([' '].intercalate ws) = [' '].intercalate (ws.map lower) := by
  induction ws with
  | nil => rfl
  | cons w ws ih =>
    cases ws with
    | nil => simp
    | cons v ws =>
      have hspace : ∀ c ∈ [' '], isBlank c = true := List.all_eq_true.1 (by decide)
      rw [List.intercalate_cons_cons, List.append_assoc, lower_append_blanks (by simp) hspace, ih]
      simp only [List.map_cons, List.intercalate_cons_cons, List.append_assoc]

/-! ### Letter case -/

lemma toLower_signs (c : Char) : isCased c.toLower = isCased c ∧
    isCaseIgnorable c.toLower = isCaseIgnorable c ∧ lowerChar c.toLower = lowerChar c ∧
    (c.toLower.toNat = 0x3A3 ↔ c.toNat = 0x3A3) := by
  by_cases hc : c.toNat < 0x80
  · exact ascii_induction (motive := fun c => isCased c.toLower = isCased c ∧
      isCaseIgnorable c.toLower = isCaseIgnorable c ∧ lowerChar c.toLower = lowerChar c ∧
      (c.toLower.toNat = 0x3A3 ↔ c.toNat = 0x3A3)) (by decide +kernel) hc
  · rw [toLower_of_not_ascii (by omega)]
    exact ⟨rfl, rfl, rfl, Iff.rfl⟩

lemma meetsCased_map_toLower (s : List Char) : meetsCased (s.map Char.toLower) = meetsCased s := by
  induction s with
  | nil => rfl
  | cons c s ih =>
    obtain ⟨hcase, hseen, -, -⟩ := toLower_signs c
    rw [List.map_cons, meetsCased_cons, meetsCased_cons, ih, hcase, hseen]

lemma lowerFrom_map_toLower (before s : List Char) :
    lowerFrom (before.map Char.toLower) (s.map Char.toLower) = lowerFrom before s := by
  induction s generalizing before with
  | nil => rfl
  | cons c s ih =>
    obtain ⟨-, -, hchar, hsigma⟩ := toLower_signs c
    have hrest := ih (c :: before)
    rw [List.map_cons] at hrest
    rw [List.map_cons, lowerFrom, lowerFrom, hrest, meetsCased_map_toLower,
      meetsCased_map_toLower, hchar]
    simp only [hsigma]

/-- **The case of ASCII letters** is nothing that a lower case depends on. -/
lemma lower_map_toLower (s : List Char) : lower (s.map Char.toLower) = lower s :=
  lowerFrom_map_toLower [] s

end QueryGuard.Proofs.LowerParts
