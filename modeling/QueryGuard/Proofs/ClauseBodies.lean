import QueryGuard.Proofs.Places
import QueryGuard.Proofs.Terminator

/-!
The bodies of clauses.

A clause opens at the first place where its keyword begins. Its body starts behind the blanks there
and goes on to the first place where a later clause begins; in front of that clause, or at the end
of the text, only blanks are left over, and trimming takes them away.
-/

namespace QueryGuard.Proofs.ClauseBodies

open Text TextRuns Places Terminator Clause

/-! ### Where clauses begin and end -/

def groupMark : Mark := pairMark "group" "by"

def orderMark : Mark := pairMark "order" "by"

def limitMark : Mark := aloneMark "limit"

lemma endsWhere_eq : endsWhere = fun b s => groupMark b s || (orderMark b s || limitMark b s) := by
  funext b s
  unfold endsWhere groupBy? orderBy? limit? groupMark orderMark limitMark
  rw [isSome_pair?, isSome_pair?, isSome_standsAlone?, Bool.or_assoc]

lemma endsGroup_eq : endsGroup = fun b s => orderMark b s || limitMark b s := by
  funext b s
  unfold endsGroup orderBy? limit? orderMark limitMark
  rw [isSome_pair?, isSome_standsAlone?]

lemma endsOrder_eq : endsOrder = limitMark := by
  funext b s
  exact isSome_standsAlone? "limit" s

variable {mark stop : Mark} {inWord : Bool} {u r z : List Char}

lemma places_endsWhere_eq_zero_iff : places endsWhere inWord u r = 0 ↔
    places groupMark inWord u r = 0 ∧ places orderMark inWord u r = 0 ∧
      places limitMark inWord u r = 0 := by
  have hlater : places (fun b s => orderMark b s || limitMark b s) inWord u r = 0 ↔
      places orderMark inWord u r = 0 ∧ places limitMark inWord u r = 0 :=
    places_or_eq_zero_iff
  rw [endsWhere_eq, ← hlater]
  exact places_or_eq_zero_iff

lemma places_endsGroup_eq_zero_iff : places endsGroup inWord u r = 0 ↔
    places orderMark inWord u r = 0 ∧ places limitMark inWord u r = 0 := by
  rw [endsGroup_eq, places_or_eq_zero_iff]

/-- What of `r` still belongs to a clause in front of it is blank. -/
def Closes (stop : Mark) (r : List Char) : Prop := ∀ b, ∀ c ∈ upTo stop b r, isBlank c = true

lemma closes_nil : Closes stop [] := fun _ _ hc => nomatch hc

/-- A later clause behind a space closes the clause in front of the space. -/
lemma closes_space (hz : z ≠ []) (h : stop false z = true) : Closes stop (' ' :: z) := by
  intro b c hc
  obtain ⟨d, z, rfl⟩ := List.exists_cons_of_ne_nil hz
  have hspace : isWordChar ' ' = false := StatementWords.not_word_of_isSpace ' ' isSpace_space
  rw [upTo, upTo, hspace, if_pos h] at hc
  split at hc
  · cases hc
  · rw [List.mem_singleton.1 hc]
    decide

/-! ### Reading a body -/

section Body

variable {start? : List Char → Option (List Char)}

lemma body?_of_absent (hstart : ∀ b s, mark b s = false → start? s = none)
    (h : places mark inWord u [] = 0) : body? start? stop u = none := by
  have hnone := firstMatch?_append_of_places hstart h
  rw [List.append_nil] at hnone
  rw [body?, hnone]
  rfl

/-- The first place where the clause opens is behind `u`, and its body goes on to the end of
`body`. -/
lemma body?_of_opened (hstart : ∀ b s, mark b s = false → start? s = none)
    {opening body : List Char} (hne : opening ≠ [])
    (hu : places mark inWord u (opening ++ (body ++ r)) = 0)
    (hopen : start? (opening ++ (body ++ r)) = some (body ++ r))
    (hbody : places stop false body r = 0) (hr : Closes stop r) :
    ∃ tail, body? start? stop (u ++ (opening ++ (body ++ r))) = some (body ++ tail) ∧
      ∀ c ∈ tail, isBlank c = true := by
  obtain ⟨c, opening, rfl⟩ := List.exists_cons_of_ne_nil hne
  refine ⟨upTo stop (endsInWord false body) r, ?_, hr _⟩
  have hfirst : firstMatch? start? (c :: opening ++ (body ++ r)) = some (body ++ r) := by
    rw [List.cons_append] at hopen ⊢
    rw [firstMatch?, hopen]
    rfl
  rw [body?, firstMatch?_append_of_places hstart hu, hfirst, Option.map_some,
    upTo_append_of_places hbody]

end Body

/-! ### Trimming -/

lemma trim_sublist (s : List Char) : (trim s).Sublist s :=
  (List.rdropWhile_prefix isBlank (dropBlanks s)).sublist.trans (List.dropWhile_sublist isBlank)

lemma not_isBlank_head?_trim (s : List Char) : ∀ c ∈ (trim s).head?, isBlank c = false := by
  intro c hc
  obtain ⟨b, hs, -⟩ := exists_trimEnd (dropBlanks s)
  have hnot := List.head?_dropWhile_not isBlank s
  have hsame : (dropBlanks s).head? = some c := by
    rw [hs, List.head?_append, show (trimEnd (dropBlanks s)).head? = some c from hc]
    rfl
  rw [← dropBlanks, hsame] at hnot
  simpa using hnot

lemma trim_of_ends {s : List Char} (hhead : ∀ c ∈ s.head?, isBlank c = false)
    (hlast : ∀ c ∈ s.getLast?, isBlank c = false) : trim s = s := by
  rcases List.eq_nil_or_concat s with rfl | ⟨y, d, rfl⟩
  · rfl
  · rw [List.concat_eq_append] at hhead hlast ⊢
    have hdrop : dropBlanks (y ++ [d]) = y ++ [d] := by
      cases y with
      | nil => simp [dropBlanks, hlast d (by simp)]
      | cons c y => simp [dropBlanks, hhead c (by simp)]
    rw [trim, hdrop, trimEnd_concat (hlast d (by simp))]

lemma trim_trim (s : List Char) : trim (trim s) = trim s :=
  trim_of_ends (not_isBlank_head?_trim s) (not_isBlank_getLast?_trimEnd _)

section Trim

variable {w : List Char} (h : trim w = w)
include h

lemma dropBlanks_of_trim : dropBlanks w = w := by
  obtain ⟨b, hb, -⟩ := exists_trimEnd (dropBlanks w)
  have hw : trimEnd (dropBlanks w) = w := h
  rw [hw] at hb
  have hle : (dropBlanks w).length ≤ w.length := (List.dropWhile_sublist _).length_le
  have hnil : b = [] := by
    rw [← List.length_eq_zero_iff]
    rw [hb, List.length_append] at hle
    omega
  rw [hb, hnil, List.append_nil]

lemma not_isBlank_head : ∀ c ∈ w.head?, isBlank c = false := by
  rw [← h]
  exact not_isBlank_head?_trim w

/-- Blanks around a trimmed text are taken away. -/
lemma trim_append (hne : w ≠ []) {b t : List Char} (hb : ∀ c ∈ b, isBlank c = true)
    (ht : ∀ c ∈ t, isBlank c = true) : trim (b ++ (w ++ t)) = w := by
  have hdrop : dropBlanks (b ++ (w ++ t)) = w ++ t := by
    obtain ⟨c, w, rfl⟩ := List.exists_cons_of_ne_nil hne
    have hc := not_isBlank_head h c rfl
    rw [dropBlanks, List.dropWhile_append_of_pos hb, List.cons_append,
      List.dropWhile_cons_of_neg (by simp [hc])]
  have hend : trimEnd w = w := by
    have hw : trimEnd (dropBlanks w) = w := h
    rwa [dropBlanks_of_trim h] at hw
  rw [trim, hdrop, trimEnd_append_of_blank ht, hend]

end Trim

/-! ### Items -/

/-- An item of a list: trimmed, and not cut by a comma. -/
structure IsItem (g : List Char) : Prop where
  ne_nil : g ≠ []
  trimmed : trim g = g
  comma : ',' ∉ g

lemma splitWhere_comma_of_free {s : List Char} (h : ',' ∉ s) :
    splitWhere (· == ',') s = [s] := by
  refine splitWhere_of_free fun c hc => ?_
  rw [beq_eq_false_iff_ne]
  rintro rfl
  exact h hc

/-- The pieces between the commas of a list are its items, up to blanks. -/
lemma trim_splitWhere_intercalate {gs : List (List Char)} (hne : gs ≠ [])
    (hgs : ∀ g ∈ gs, IsItem g) {b t : List Char} (hb : ∀ c ∈ b, isBlank c = true)
    (ht : ∀ c ∈ t, isBlank c = true) :
    (splitWhere (· == ',') (b ++ ([',', ' '].intercalate gs ++ t))).map trim = gs := by
  have hcomma : isBlank ',' = false := by decide
  have hfree : ∀ {s : List Char}, (∀ c ∈ s, isBlank c = true) → ',' ∉ s := by
    intro s hs hmem
    rw [hs ',' hmem] at hcomma
    cases hcomma
  induction gs generalizing b with
  | nil => exact absurd rfl hne
  | cons g gs ih =>
    have hg := hgs g List.mem_cons_self
    cases gs with
    | nil =>
      have hall : ',' ∉ b ++ (g ++ t) := by simp [hfree hb, hg.comma, hfree ht]
      rw [List.intercalate_singleton, splitWhere_comma_of_free hall, List.map_singleton,
        trim_append hg.trimmed hg.ne_nil hb ht]
    | cons g' gs =>
      have hbg : ',' ∉ b ++ g := by simp [hfree hb, hg.comma]
      have hcut : b ++ ([',', ' '].intercalate (g :: g' :: gs) ++ t) =
          (b ++ g) ++ ',' :: ([' '] ++ ([',', ' '].intercalate (g' :: gs) ++ t)) := by
        rw [List.intercalate_cons_cons]
        simp
      have hfirst : trim (b ++ g) = g := by
        have htrim := trim_append hg.trimmed hg.ne_nil hb (t := []) (by simp)
        rwa [List.append_nil] at htrim
      have hrest := ih (by simp) (fun x hx => hgs x (List.mem_cons_of_mem g hx))
        (b := [' ']) (List.forall_mem_singleton.2 (by decide))
      rw [hcut, splitWhere_append_sep (by simp), splitWhere_comma_of_free hbg,
        List.map_append, List.map_singleton, hfirst, hrest, List.singleton_append]

/-- **The items of a clause** are those it was made of, whatever blanks follow the last. -/
theorem items_intercalate {gs : List (List Char)} (hne : gs ≠ []) (hgs : ∀ g ∈ gs, IsItem g)
    {t : List Char} (ht : ∀ c ∈ t, isBlank c = true) :
    items ([',', ' '].intercalate gs ++ t) = gs.map String.ofList := by
  have hpieces := trim_splitWhere_intercalate hne hgs (b := []) (by simp) ht
  have hfilter : gs.filter (· ≠ []) = gs := by
    rw [List.filter_eq_self]
    intro g hg
    simpa using (hgs g hg).ne_nil
  rw [List.nil_append] at hpieces
  rw [items, hpieces, hfilter]

end QueryGuard.Proofs.ClauseBodies
