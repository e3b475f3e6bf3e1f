import Mathlib
import QueryGuard.Draft.Fence
import QueryGuard.Proofs.ClauseBodies
import QueryGuard.Proofs.StatementHead
import QueryGuard.Validation

/-!
What is left of a draft between fences.

Backquotes are taken off at both ends, and the name of the language with those in front if it is
the one that is looked for. Any other name stays, less the letters that it begins with if they are
those of the name looked for, and the draft stands behind it on a line of its own. A text is left as
it is when it is trimmed and has no fence at either end.
-/

namespace QueryGuard.Proofs.StrippedFence

open Text Fence Terminator ClauseBodies

def tick : Char := Char.ofNat 0x60

lemma mark_eq : mark = [tick, tick, tick] := rfl

lemma mark_reverse : mark.reverse = mark := rfl

lemma tick_not_blank : isBlank tick = false := by decide

lemma newline_blank : isBlank '\n' = true := by decide

/-! ### Dropping what stands in front -/

section Drop

variable {w : List Char}

lemma dropRepeated_nil (hne : w ≠ []) (n : Nat) : dropRepeated w n [] = [] := by
  cases n with
  | zero => rfl
  | succ n =>
    obtain ⟨c, w, rfl⟩ := List.exists_cons_of_ne_nil hne
    rfl

/-- The bound on the number of drops does not matter if it is no less than the length. -/
lemma dropRepeated_of_le (hne : w ≠ []) {m n : Nat} {s : List Char} (hm : s.length ≤ m)
    (hn : s.length ≤ n) : dropRepeated w m s = dropRepeated w n s := by
  induction m generalizing n s with
  | zero =>
    rw [List.eq_nil_of_length_eq_zero (Nat.le_zero.1 hm), dropRepeated_nil hne,
      dropRepeated_nil hne]
  | succ m ih =>
    cases n with
    | zero =>
      rw [List.eq_nil_of_length_eq_zero (Nat.le_zero.1 hn), dropRepeated_nil hne,
        dropRepeated_nil hne]
    | succ n =>
      simp only [dropRepeated]
      cases hs : w.isPrefixOf? s with
      | none => rfl
      | some rest =>
        have hlength := congrArg List.length (List.isPrefixOf?_eq_some_iff_append_eq.1 hs)
        have hpos := List.length_pos_iff.2 hne
        rw [List.length_append] at hlength
        exact ih (by omega) (by omega)

lemma dropHeads_append (hne : w ≠ []) (s : List Char) :
    dropHeads w (w ++ s) = dropHeads w s := by
  have hfirst : w.isPrefixOf? (w ++ s) = some s :=
    List.isPrefixOf?_eq_some_iff_append_eq.2 rfl
  have hpos := List.length_pos_iff.2 hne
  obtain ⟨n, hn⟩ : ∃ n, (w ++ s).length = n + 1 := by
    refine ⟨w.length + s.length - 1, ?_⟩
    rw [List.length_append]
    omega
  rw [List.length_append] at hn
  rw [dropHeads, List.length_append, hn, dropRepeated, hfirst]
  exact dropRepeated_of_le hne (by omega) (by omega)

lemma dropHeads_eq_self {s : List Char} (h : ¬w <+: s) : dropHeads w s = s := by
  have hnone : w.isPrefixOf? s = none := by
    cases hs : w.isPrefixOf? s with
    | none => rfl
    | some rest => exact absurd ⟨rest, List.isPrefixOf?_eq_some_iff_append_eq.1 hs⟩ h
  rw [dropHeads]
  cases s.length with
  | zero => rfl
  | succ n => rw [dropRepeated, hnone]

lemma dropRepeated_suffix (n : Nat) (s : List Char) : dropRepeated w n s <:+ s := by
  induction n generalizing s with
  | zero => exact List.suffix_refl s
  | succ n ih =>
    rw [dropRepeated]
    split
    · exact List.suffix_refl s
    · rename_i rest hs
      rw [← List.isPrefixOf?_eq_some_iff_append_eq.1 hs]
      exact (ih rest).trans (List.suffix_append w rest)

lemma dropHeads_suffix (s : List Char) : dropHeads w s <:+ s := dropRepeated_suffix _ s

lemma dropHeads_eq_self_iff (hne : w ≠ []) (s : List Char) :
    dropHeads w s = s ↔ ¬w <+: s := by
  refine ⟨?_, dropHeads_eq_self⟩
  rintro h ⟨rest, rfl⟩
  have hle := (dropHeads_suffix (w := w) rest).length_le
  have hpos := List.length_pos_iff.2 hne
  rw [dropHeads_append hne] at h
  rw [h, List.length_append] at hle
  omega

end Drop

/-- Where no backquote stands there is nothing to drop. -/
lemma dropHeads_of_head? {s : List Char} (h : tick ∉ s.head?) (w : List Char) :
    dropHeads (mark ++ w) s = s := by
  refine dropHeads_eq_self ?_
  rintro ⟨rest, rfl⟩
  exact h rfl

lemma dropTails_mark (s : List Char) : dropTails mark s = (dropHeads mark s.reverse).reverse := rfl

lemma dropTails_mark_eq_self_iff (s : List Char) : dropTails mark s = s ↔ ¬mark <:+ s := by
  rw [dropTails_mark, ← List.reverse_prefix, mark_reverse,
    ← dropHeads_eq_self_iff (by simp [mark_eq])]
  constructor
  · intro h
    rw [← List.reverse_inj, List.reverse_reverse, h]
  · intro h
    rw [h, List.reverse_reverse]

/-! ### Texts that stay as they are -/

/-- What is left of a text is found in it in order. -/
def TakesAway (f : List Char → List Char) : Prop := ∀ s, (f s).Sublist s

section TakesAway

variable {f g : List Char → List Char} (hg : TakesAway g) (hf : TakesAway f)
include hg hf

lemma TakesAway.comp : TakesAway (g ∘ f) := fun s => (hg (f s)).trans (hf s)

/-- One after the other they leave a text alone only if each does, for nothing comes back. -/
lemma TakesAway.comp_eq_self_iff (s : List Char) : (g ∘ f) s = s ↔ f s = s ∧ g s = s := by
  constructor
  · intro h
    have hle := (hg (f s)).length_le
    rw [Function.comp_apply] at h
    rw [h] at hle
    have hsame := (hf s).eq_of_length_le hle
    rw [hsame] at h
    exact ⟨hsame, h⟩
  · rintro ⟨hfirst, hsecond⟩
    rw [Function.comp_apply, hfirst, hsecond]

end TakesAway

lemma takesAway_dropHeads (w : List Char) : TakesAway (dropHeads w) :=
  fun s => (dropHeads_suffix s).sublist

lemma takesAway_dropTails : TakesAway (dropTails mark) := by
  intro s
  have h := (takesAway_dropHeads mark s.reverse).reverse
  rwa [List.reverse_reverse] at h

lemma toList_strip (text : String) :
    (strip text).toList =
      (trim ∘ dropTails mark ∘ dropHeads mark ∘ dropHeads (mark ++ "sql".toList) ∘ trim)
        text.toList := by
  simp [strip]

/-- **Nothing to strip.** A text is left as it is when it is trimmed and has no three backquotes at
either end. -/
lemma strip_eq_self_iff (text : String) :
    strip text = text ↔
      trim text.toList = text.toList ∧ ¬mark <+: text.toList ∧ ¬mark <:+ text.toList := by
  have hnamed : TakesAway (dropHeads (mark ++ "sql".toList) ∘ trim) :=
    (takesAway_dropHeads _).comp trim_sublist
  have hheads := (takesAway_dropHeads mark).comp hnamed
  have htails := takesAway_dropTails.comp hheads
  -- what begins with the mark and the name begins with the mark
  have hmark : mark ++ "sql".toList <+: text.toList → mark <+: text.toList :=
    (List.prefix_append _ _).trans
  rw [← String.toList_inj, toList_strip, TakesAway.comp_eq_self_iff trim_sublist htails,
    takesAway_dropTails.comp_eq_self_iff hheads,
    (takesAway_dropHeads mark).comp_eq_self_iff hnamed,
    (takesAway_dropHeads _).comp_eq_self_iff trim_sublist,
    dropHeads_eq_self_iff (by simp [mark_eq]), dropHeads_eq_self_iff (by simp [mark_eq]),
    dropTails_mark_eq_self_iff]
  tauto

lemma strip_strip_iff (text : String) :
    strip (strip text) = strip text ↔
      ¬mark <+: (strip text).toList ∧ ¬mark <:+ (strip text).toList := by
  rw [strip_eq_self_iff]
  refine and_iff_right ?_
  rw [toList_strip, Function.comp_apply, trim_trim]

lemma not_mark_of_not_mem {s : List Char} (h : tick ∉ s) : ¬mark <+: s ∧ ¬mark <:+ s := by
  have hmem : tick ∈ mark := by simp [mark_eq]
  exact ⟨fun hp => h (hp.subset hmem), fun hs => h (hs.subset hmem)⟩

/-! ### Drafts between fences -/

/-- A draft that a fence can be put around: trimmed, not empty, and without backquotes. -/
structure IsBody (body : List Char) : Prop where
  ne_nil : body ≠ []
  trimmed : trim body = body
  plain : tick ∉ body

/-- The draft between lines of three backquotes, the first with the name of a language, and blanks
around them. -/
structure IsFenced (text : String) (name body : List Char) : Prop where
  text_eq : ∃ before behind, (∀ c ∈ before, isBlank c = true) ∧ (∀ c ∈ behind, isBlank c = true) ∧
    text.toList = before ++ ((mark ++ (name ++ '\n' :: (body ++ '\n' :: mark))) ++ behind)
  letters : ∀ c ∈ name, c.isAlpha = true
  isBody : IsBody body

/-- What stays of the name of a language. -/
def remnant (name : List Char) : List Char := ("sql".toList.isPrefixOf? name).getD name

lemma remnant_cases (name : List Char) :
    name = "sql".toList ++ remnant name ∨ remnant name = name ∧ ¬"sql".toList <+: name := by
  unfold remnant
  cases h : "sql".toList.isPrefixOf? name with
  | none =>
    refine .inr ⟨rfl, ?_⟩
    rintro ⟨rest, hrest⟩
    rw [List.isPrefixOf?_eq_some_iff_append_eq.2 hrest] at h
    cases h
  | some rest => exact .inl (List.isPrefixOf?_eq_some_iff_append_eq.1 h).symm

lemma remnant_suffix (name : List Char) : remnant name <:+ name := by
  obtain h | ⟨h, -⟩ := remnant_cases name
  · exact ⟨_, h.symm⟩
  · rw [h]

lemma remnant_eq_nil_iff (name : List Char) :
    remnant name = [] ↔ name = [] ∨ name = "sql".toList := by
  refine ⟨fun hnil => ?_, ?_⟩
  · obtain h | ⟨h, -⟩ := remnant_cases name
    · rw [hnil, List.append_nil] at h
      exact .inr h
    · exact .inl (h.symm.trans hnil)
  · rintro (rfl | rfl) <;> rfl

lemma isAlpha_signs {c : Char} (h : c.isAlpha = true) : isBlank c = false ∧ c ≠ tick := by
  have hascii : c.toNat < 0x80 :=
    LowerImage.toNat_lt_of_isAlphanum (Bool.or_eq_true_iff.2 (.inl h))
  exact LowerImage.ascii_induction
    (motive := fun c => c.isAlpha = true → isBlank c = false ∧ c ≠ tick) (by decide +kernel)
    hascii h

section Name

variable {name : List Char} (hname : ∀ c ∈ name, c.isAlpha = true)
include hname

lemma tick_not_mem_head (r : List Char) : tick ∉ (name ++ '\n' :: r).head? := by
  intro ht
  cases name with
  | nil =>
    have hbreak : '\n' = tick := Option.some.inj ht
    exact absurd hbreak (by decide)
  | cons c name => exact (isAlpha_signs (hname c List.mem_cons_self)).2 (Option.some.inj ht)

/-- The marks in front of a draft go, and of the name behind them the remnant stays. -/
lemma dropHeads_named (r : List Char) :
    dropHeads mark (dropHeads (mark ++ "sql".toList) (mark ++ (name ++ '\n' :: r))) =
      remnant name ++ '\n' :: r := by
  have hremnant : ∀ c ∈ remnant name, c.isAlpha = true :=
    fun c hc => hname c ((remnant_suffix name).subset hc)
  have hstop := tick_not_mem_head hremnant r
  have hrest : dropHeads mark (remnant name ++ '\n' :: r) = remnant name ++ '\n' :: r :=
    dropHeads_of_head? hstop []
  obtain h | ⟨h, hnot⟩ := remnant_cases name
  · have hfront : mark ++ (name ++ '\n' :: r) =
        (mark ++ "sql".toList) ++ (remnant name ++ '\n' :: r) := by
      rw [List.append_assoc, ← List.append_assoc "sql".toList, ← h]
    rw [hfront, dropHeads_append (by simp [mark_eq]), dropHeads_of_head? hstop, hrest]
  · have hnamed : ¬(mark ++ "sql".toList) <+: mark ++ (name ++ '\n' :: r) := by
      have hbreak : ∀ c ∈ ('\n' :: r).head?, c ∉ "sql".toList := by simp
      rwa [List.prefix_append_right_inj, StatementHead.prefix_append_iff hbreak]
    rw [h] at hrest ⊢
    rw [dropHeads_eq_self hnamed, dropHeads_append (by simp [mark_eq]), hrest]

end Name

lemma dropTails_fenced (s : List Char) : dropTails mark (s ++ '\n' :: mark) = s ++ ['\n'] := by
  have hback : (s ++ '\n' :: mark).reverse = mark ++ '\n' :: s.reverse := by
    simp [mark_reverse]
  have hstop := dropHeads_of_head? (s := '\n' :: s.reverse) (by simp [tick]) []
  rw [dropTails_mark, hback, dropHeads_append (by simp [mark_eq]),
    show mark = mark ++ [] from rfl, hstop]
  simp

section Fenced

variable {text : String} {name body : List Char} (h : IsFenced text name body)
include h

lemma toList_strip_fenced :
    (strip text).toList = trim (remnant name ++ '\n' :: body ++ ['\n']) := by
  obtain ⟨before, behind, hbefore, hbehind, htext⟩ := h.text_eq
  have hends : trim (mark ++ (name ++ '\n' :: (body ++ '\n' :: mark))) =
      mark ++ (name ++ '\n' :: (body ++ '\n' :: mark)) := by
    have hlast : (mark ++ (name ++ '\n' :: (body ++ '\n' :: mark))).getLast? = some tick := by
      simp [mark_eq, List.getLast?_cons]
    refine trim_of_ends ?_ ?_
    · intro c hc
      obtain rfl : tick = c := Option.some.inj hc
      exact tick_not_blank
    · rw [hlast]
      intro c hc
      obtain rfl : tick = c := Option.some.inj hc
      exact tick_not_blank
  have htail : remnant name ++ '\n' :: (body ++ '\n' :: mark) =
      (remnant name ++ '\n' :: body) ++ '\n' :: mark := by
    rw [List.append_assoc, List.cons_append]
  simp only [toList_strip, Function.comp_apply]
  rw [htext, trim_append hends (by simp [mark_eq]) hbefore hbehind, dropHeads_named h.letters,
    htail, dropTails_fenced]

/-- The draft, if nothing stays of the name. -/
lemma strip_of_nothing (hname : remnant name = []) : (strip text).toList = body := by
  have hbreak : ∀ c ∈ ['\n'], isBlank c = true := by simp [newline_blank]
  rw [toList_strip_fenced h, hname]
  exact trim_append h.isBody.trimmed h.isBody.ne_nil hbreak hbreak

/-- The draft behind what stays of the name, on a line of its own. -/
lemma strip_of_remnant (hname : remnant name ≠ []) :
    (strip text).toList = remnant name ++ '\n' :: body := by
  have hbreak : ∀ c ∈ ['\n'], isBlank c = true := by simp [newline_blank]
  have hlast := not_isBlank_getLast?_trimEnd (dropBlanks body)
  have htrimmed : trim (remnant name ++ '\n' :: body) = remnant name ++ '\n' :: body := by
    obtain ⟨c, rest, hrest⟩ := List.exists_cons_of_ne_nil hname
    have hc : c ∈ name := (remnant_suffix name).subset (hrest ▸ List.mem_cons_self)
    refine trim_of_ends ?_ ?_
    · simpa [hrest] using (isAlpha_signs (h.letters c hc)).1
    · rw [← trim, h.isBody.trimmed] at hlast
      have hne := h.isBody.ne_nil
      rwa [List.getLast?_append_of_ne_nil _ (by simp), List.getLast?_cons_of_ne_nil hne]
  rw [toList_strip_fenced h]
  exact trim_append htrimmed (by simp) (b := []) (by simp) hbreak

lemma tick_not_mem_strip : tick ∉ (strip text).toList := by
  by_cases hname : remnant name = []
  · rw [strip_of_nothing h hname]
    exact h.isBody.plain
  · have hplain : tick ∉ remnant name := fun hm =>
      (isAlpha_signs (h.letters tick ((remnant_suffix name).subset hm))).2 rfl
    have hbreak : tick ≠ '\n' := by decide
    rw [strip_of_remnant h hname]
    simp [hplain, hbreak, h.isBody.plain]

end Fenced

lemma strip_congr {text other : String} (h : trim text.toList = trim other.toList) :
    strip text = strip other := by
  unfold strip
  rw [h]

lemma strip_plain {before body behind : List Char} (hbody : IsBody body)
    (hbefore : ∀ c ∈ before, isBlank c = true) (hbehind : ∀ c ∈ behind, isBlank c = true) :
    strip (String.ofList (before ++ (body ++ behind))) = String.ofList body := by
  have htrim : trim (String.ofList (before ++ (body ++ behind))).toList =
      trim (String.ofList body).toList := by
    rw [String.toList_ofList, String.toList_ofList,
      trim_append hbody.trimmed hbody.ne_nil hbefore hbehind, hbody.trimmed]
  rw [strip_congr htrim, strip_eq_self_iff, String.toList_ofList]
  exact ⟨hbody.trimmed, not_mark_of_not_mem hbody.plain⟩

/-- **Drafts between fences.** A draft comes out of its fence exactly when the fence names no
language, or names it as it is looked for. A draft without a fence comes out as it is, whatever
blanks are around it, and what has come out of a fence stays as it is. Of all texts, those that have
three backquotes at one end when they come out do not stay. -/
theorem strip_fenced {text : String} {name body : List Char} (h : IsFenced text name body) :
    (strip text = String.ofList body ↔ name = [] ∨ name = "sql".toList) ∧
    (∀ before behind, (∀ c ∈ before, isBlank c = true) → (∀ c ∈ behind, isBlank c = true) →
      strip (String.ofList (before ++ (body ++ behind))) = String.ofList body) ∧
    strip (strip text) = strip text ∧
    ∀ other, strip (strip other) = strip other ↔
      ¬mark <+: (strip other).toList ∧ ¬mark <:+ (strip other).toList := by
  refine ⟨?_, fun _ _ => strip_plain h.isBody, ?_, strip_strip_iff⟩
  · rw [← remnant_eq_nil_iff, ← String.toList_inj, String.toList_ofList]
    refine ⟨fun hout => ?_, strip_of_nothing h⟩
    by_contra hname
    rw [strip_of_remnant h hname] at hout
    have hlength := congrArg List.length hout
    rw [List.length_append, List.length_cons] at hlength
    omega
  · exact (strip_strip_iff text).2 (not_mark_of_not_mem (tick_not_mem_strip h))

lemma isBody_select : IsBody "SELECT 1".toList :=
  ⟨by decide, by decide +kernel, by decide +kernel⟩

theorem strip_fenced_sql :
    IsFenced " ```sql\nSELECT 1\n```\n" "sql".toList "SELECT 1".toList ∧
      strip " ```sql\nSELECT 1\n```\n" = String.ofList "SELECT 1".toList ∧
      strip (strip " ```sql\nSELECT 1\n```\n") = strip " ```sql\nSELECT 1\n```\n" := by
  have hbefore : ∀ c ∈ [' '], isBlank c = true := List.all_eq_true.1 (by decide)
  have hbehind : ∀ c ∈ ['\n'], isBlank c = true := List.all_eq_true.1 (by decide)
  have h : IsFenced " ```sql\nSELECT 1\n```\n" "sql".toList "SELECT 1".toList :=
    ⟨⟨[' '], ['\n'], hbefore, hbehind, by decide⟩, List.all_eq_true.1 (by decide), isBody_select⟩
  obtain ⟨hout, -, hstays, -⟩ := strip_fenced h
  exact ⟨h, hout.2 (.inr rfl), hstays⟩

/-- A name that begins with the one looked for is cut in two, and a name in capitals stays as a
whole. What comes out is no statement any more. -/
theorem fence_name_left :
    IsFenced "```sqlite\nSELECT 1\n```" "sqlite".toList "SELECT 1".toList ∧
      strip "```sqlite\nSELECT 1\n```" = "ite\nSELECT 1" ∧
      IsFenced "```SQL\nSELECT 1\n```" "SQL".toList "SELECT 1".toList ∧
      strip "```SQL\nSELECT 1\n```" = "SQL\nSELECT 1" ∧
      Validation.read "SELECT 1" = none ∧ Validation.read "ite\nSELECT 1" = some .notRead := by
  refine ⟨⟨⟨[], [], by simp, by simp, by decide⟩, List.all_eq_true.1 (by decide), isBody_select⟩,
    by decide +kernel, ?_, by decide +kernel, by decide +kernel, by decide +kernel⟩
  exact ⟨⟨[], [], by simp, by simp, by decide⟩, List.all_eq_true.1 (by decide), isBody_select⟩

end QueryGuard.Proofs.StrippedFence
