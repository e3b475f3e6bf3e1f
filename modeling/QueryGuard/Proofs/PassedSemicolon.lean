import QueryGuard.Outline.IndexHint
import QueryGuard.Proofs.Places
import QueryGuard.Proofs.StatementWords

/-!
Readers that pass a semicolon on.

A semicolon is no blank and no sign of a name, a number or a keyword. A reader that is made of such
parts reads the same in front of it, and leaves it at the end of what it leaves. A search with such
a reader finds the same as without the semicolon.
-/

namespace QueryGuard.Proofs.PassedSemicolon

open Text TextRuns StatementWords Places Clause

variable {α β : Type}

/-- What the reader leaves has the semicolon behind it. -/
def Keeps (f : List Char → Option (List Char)) : Prop :=
  ∀ s, f (s ++ [';']) = (f s).map (· ++ [';'])

/-- The reader takes the same, and what it leaves has the semicolon behind it. -/
def Carries (m : List Char → Option (α × List Char)) : Prop :=
  ∀ s, m (s ++ [';']) = (m s).map fun x => (x.1, x.2 ++ [';'])

lemma not_isBlank_semicolon : isBlank ';' = false := by decide

/-! ### How readers are put together -/

section Compose

variable {f g : List Char → Option (List Char)} {m : List Char → Option (α × List Char)}
  {n : List Char → Option (β × List Char)}

lemma Keeps.bind (hf : Keeps f) (hg : Keeps g) : Keeps fun s => (f s).bind g := by
  intro s
  dsimp only
  rw [hf s]
  cases f s with
  | none => rfl
  | some r => exact hg r

lemma Keeps.bind_carries (hf : Keeps f) (hm : Carries m) : Carries fun s => (f s).bind m := by
  intro s
  dsimp only
  rw [hf s]
  cases f s with
  | none => rfl
  | some r => exact hm r

/-- What the first reader takes is thrown away. -/
lemma Carries.bind_snd (hm : Carries m) (hn : Carries n) :
    Carries fun s => (m s).bind fun x => n x.2 := by
  intro s
  dsimp only
  rw [hm s]
  cases m s with
  | none => rfl
  | some x => exact hn x.2

lemma Carries.orElse {m' : List Char → Option (α × List Char)} (hm : Carries m)
    (hm' : Carries m') : Carries fun s => m s <|> m' s := by
  intro s
  dsimp only
  rw [hm s, hm' s]
  cases m s <;> rfl

end Compose

/-! ### The readers -/

lemma keeps_isPrefixOf? {w : List Char} (hw : ';' ∉ w) : Keeps (w.isPrefixOf? ·) :=
  fun s => isPrefixOf?_append_sep hw s []

lemma dropWhile_semicolon {p : Char → Bool} (hp : p ';' = false) (s : List Char) :
    (s ++ [';']).dropWhile p = s.dropWhile p ++ [';'] := by
  rw [List.dropWhile_append]
  cases s.dropWhile p with
  | nil => simp [hp]
  | cons d s => simp

lemma keeps_blanks? : Keeps blanks? := by
  intro s
  cases s with
  | nil => decide
  | cons c s =>
    have hdrop : dropBlanks (s ++ [';']) = dropBlanks s ++ [';'] :=
      dropWhile_semicolon not_isBlank_semicolon s
    rw [List.cons_append, blanks?, blanks?, hdrop]
    split <;> rfl

lemma carries_run? {p : Char → Bool} (hp : p ';' = false) : Carries (run? p) := by
  intro s
  have htake : (s ++ [';']).takeWhile p = s.takeWhile p := by
    induction s with
    | nil => simp [hp]
    | cons c s ih => simp only [List.cons_append, List.takeWhile_cons, ih]
  rw [run?, run?, htake, dropWhile_semicolon hp]
  split <;> rfl

lemma keeps_after? {word : String} (hw : ';' ∉ word.toList) : Keeps (after? word) :=
  (keeps_isPrefixOf? hw).bind keeps_blanks?

lemma keeps_pair? {first second : String} (hfirst : ';' ∉ first.toList)
    (hsecond : ';' ∉ second.toList) : Keeps (pair? first second) :=
  (keeps_after? hfirst).bind (keeps_isPrefixOf? hsecond)

lemma keeps_groupBy? : Keeps groupBy? := keeps_pair? (by decide) (by decide)

lemma keeps_orderBy? : Keeps orderBy? := keeps_pair? (by decide) (by decide)

lemma isWordEnd_semicolon : isWordEnd ';' = true := by decide +kernel

lemma keeps_limit? (inWord : Bool) : Keeps (limit? inWord) :=
  fun s => standsAlone?_append_sep isKeyword_limit.letters isWordEnd_semicolon inWord s []

lemma not_isNameChar_semicolon : isNameChar ';' = false := by decide

lemma carries_named? {word : String} (hw : ';' ∉ word.toList) : Carries (named? word) :=
  (keeps_after? hw).bind_carries (carries_run? (by decide))

open IndexHint

lemma carries_qualified? : Carries qualified? := by
  have hname : Carries (run? isNameChar) := carries_run? not_isNameChar_semicolon
  intro s
  unfold qualified?
  rw [hname s]
  cases run? isNameChar s with
  | none => rfl
  | some x =>
    obtain ⟨table, r⟩ := x
    simp only [Option.map_some, Option.bind_eq_bind, Option.bind_some]
    cases r with
    | nil => rfl
    | cons c r =>
      rw [List.cons_append]
      by_cases hc : c = '.'
      · subst hc
        simp only [hname r]
        cases run? isNameChar r <;> rfl
      · split
        · rename_i heq
          exact absurd (List.cons.inj heq).1 hc
        · split
          · rename_i heq
            exact absurd (List.cons.inj heq).1 hc
          · rfl

lemma carries_on? : Carries on? :=
  (keeps_blanks?.bind (keeps_after? (by decide))).bind_carries carries_qualified?

lemma carries_joinOn? : Carries joinOn? := by
  have hname : Carries (run? isNameChar) := carries_run? not_isNameChar_semicolon
  have halias : Carries aliasedOn? := (keeps_blanks?.bind_carries hname).bind_snd carries_on?
  have hword : Keeps (after? "as") := keeps_after? (by decide)
  have has : Carries asAliasedOn? :=
    ((keeps_blanks?.bind hword).bind_carries hname).bind_snd carries_on?
  have hjoin : Carries (named? "join") := carries_named? (by decide)
  have hon := has.orElse (halias.orElse carries_on?)
  exact hjoin.bind_snd hon

lemma carries_where? : Carries IndexHint.where? :=
  (keeps_after? (by decide)).bind_carries carries_qualified?

lemma carries_orderBy? : Carries IndexHint.orderBy? :=
  (keeps_orderBy?.bind keeps_blanks?).bind_carries carries_qualified?

/-! ### Searches -/

lemma readAllFrom_semicolon {m : List Char → Option (α × List Char)} (hm : Carries m)
    (hnil : m [] = none) (busy : Nat) (s : List Char) :
    readAllFrom m busy (s ++ [';']) = readAllFrom m busy s := by
  induction s generalizing busy with
  | nil =>
    have hnone : m [';'] = none := by
      have h := hm []
      rwa [hnil] at h
    cases busy with
    | zero => simp [readAllFrom, hnone]
    | succ busy => rfl
  | cons c s ih =>
    cases busy with
    | succ busy => exact ih busy
    | zero =>
      rw [List.cons_append, readAllFrom, readAllFrom, ← List.cons_append, hm (c :: s)]
      cases m (c :: s) with
      | none => exact ih 0
      | some x =>
        have hbusy : (s ++ [';']).length - (x.2 ++ [';']).length = s.length - x.2.length := by
          rw [List.length_append, List.length_append]
          exact Nat.add_sub_add_right _ _ _
        simp only [Option.map_some, hbusy, ih]

/-- **A search reads the same** in front of the semicolon. -/
lemma readAll_semicolon {m : List Char → Option (α × List Char)} (hm : Carries m)
    (hnil : m [] = none) (s : List Char) : readAll m (s ++ [';']) = readAll m s :=
  readAllFrom_semicolon hm hnil 0 s

lemma firstMatch?_semicolon {f : List Char → Option (List Char)} (hf : Keeps f)
    (hnil : f [] = none) : Keeps (firstMatch? f) := by
  intro s
  induction s with
  | nil =>
    have hnone : f [';'] = none := by
      have h := hf []
      rwa [hnil] at h
    simp [firstMatch?, hnone]
  | cons c s ih =>
    rw [List.cons_append, firstMatch?, firstMatch?, ← List.cons_append, hf (c :: s), ih]
    cases f (c :: s) <;> rfl

/-! ### Stops -/

/-- The semicolon is no place to stop at, and makes none. -/
structure Unmoved (stop : Mark) : Prop where
  nil : ∀ b, stop b [] = false
  append : ∀ b s, stop b (s ++ [';']) = stop b s

lemma Keeps.isSome_eq {f : List Char → Option (List Char)} (hf : Keeps f) (s : List Char) :
    (f (s ++ [';'])).isSome = (f s).isSome := by
  rw [hf s, Option.isSome_map]

lemma unmoved_endsOrder : Unmoved endsOrder where
  nil := by decide
  append := fun b s => (keeps_limit? b).isSome_eq s

lemma unmoved_endsGroup : Unmoved endsGroup where
  nil := by decide
  append := by
    intro b s
    rw [endsGroup, endsGroup, keeps_orderBy?.isSome_eq, (keeps_limit? b).isSome_eq]

lemma unmoved_endsWhere : Unmoved endsWhere where
  nil := by decide
  append := by
    intro b s
    rw [endsWhere, endsWhere, keeps_groupBy?.isSome_eq, keeps_orderBy?.isSome_eq,
      (keeps_limit? b).isSome_eq]

section UpTo

variable {stop : Mark} (hstop : Unmoved stop) {b : Bool} {s : List Char}

include hstop in
lemma places_semicolon : places stop b s [';'] = places stop b s [] := by
  induction s generalizing b with
  | nil => rfl
  | cons c s ih =>
    rw [places_cons, places_cons, ih, ← List.cons_append, hstop.append, List.append_nil]

lemma upTo_of_places (h : places stop b s [] = 0) : upTo stop b s = s := by
  have hall := upTo_append_of_places h
  rwa [List.append_nil, upTo_nil, List.append_nil] at hall

include hstop

/-- Without a place to stop at, the semicolon is taken along. -/
lemma upTo_semicolon_of_places (h : places stop b s [] = 0) :
    upTo stop b (s ++ [';']) = s ++ [';'] := by
  have hlast : upTo stop (endsInWord b s) [';'] = [';'] := by
    have hnone := hstop.append (endsInWord b s) []
    rw [hstop.nil, List.nil_append] at hnone
    simp [upTo, hnone]
  rw [upTo_append_of_places (by rw [places_semicolon hstop, h]), hlast]

lemma upTo_semicolon_of_stop (h : places stop b s [] ≠ 0) :
    upTo stop b (s ++ [';']) = upTo stop b s := by
  induction s generalizing b with
  | nil => exact absurd rfl h
  | cons c s ih =>
    rw [places_cons, List.append_nil] at h
    rw [List.cons_append, upTo, upTo, ← List.cons_append, hstop.append]
    cases hc : stop b (c :: s) with
    | true => rfl
    | false =>
      rw [hc, Bool.toNat_false, Nat.zero_add] at h
      rw [ih h]

end UpTo

end QueryGuard.Proofs.PassedSemicolon
