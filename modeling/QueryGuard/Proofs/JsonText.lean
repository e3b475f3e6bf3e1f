import Mathlib.Tactic.Common
import QueryGuard.Json.Printer
import QueryGuard.Json.Reader

/-!
What a compact text tells of its value.

A text in quotes is read back as it was, and the reader stops behind its last quote. So of two
values made of texts, lists and objects the one that stands at the head of a text is known, and
with it what follows. Numbers do not say where they end, and are left out.
-/

namespace QueryGuard.Proofs.JsonText

open Json

variable {x y : List Char}

/-! ### Texts -/

lemma hex4?_hexDigit : ∀ n < 0x20, hex4? '0' '0' (hexDigit (n / 16)) (hexDigit n) = some n := by
  decide

lemma ofNat_eq_of_toNat {c : Char} {n : Nat} (h : c.toNat = n) : Char.ofNat n = c := by
  rw [← h, Char.ofNat_toNat]

/-- What a character is written as is read as that character. -/
lemma stringTail?_escape (c : Char) (s : List Char) :
    stringTail? (escape c ++ s) = (stringTail? s).map fun (cs, r) => (c :: cs, r) := by
  unfold escape
  split_ifs with hquote hslash hplain h8 h9 hA hC hD
  · subst hquote
    simp [stringTail?, shortEscape?]
  · subst hslash
    simp [stringTail?, shortEscape?]
  · have hlow : ¬c.toNat < 0x20 := by omega
    simp [stringTail?, hslash, hlow]
  · obtain rfl := ofNat_eq_of_toNat h8
    simp [stringTail?, shortEscape?]
  · obtain rfl := ofNat_eq_of_toNat h9
    simp [stringTail?, shortEscape?]
  · obtain rfl := ofNat_eq_of_toNat hA
    simp [stringTail?, shortEscape?]
  · obtain rfl := ofNat_eq_of_toNat hC
    simp [stringTail?, shortEscape?]
  · obtain rfl := ofNat_eq_of_toNat hD
    simp [stringTail?, shortEscape?]
  · have hlt : c.toNat < 0x20 := by omega
    have hhigh : isHighSurrogate c.toNat = false := by
      have h : ¬0xD800 ≤ c.toNat := by omega
      simp [isHighSurrogate, h]
    have hlow : isLowSurrogate c.toNat = false := by
      have h : ¬0xDC00 ≤ c.toNat := by omega
      simp [isLowSurrogate, h]
    simp [stringTail?, hex4?_hexDigit c.toNat hlt, hhigh, hlow, Char.ofNat_toNat]

/-- **Texts are read back.** Behind its first quote the reader finds the text and what follows its
last quote. -/
theorem stringTail?_quote (s : String) (x : List Char) :
    stringTail? ((quote s).tail ++ x) = some (s.toList, x) := by
  unfold quote
  rw [List.tail_cons, List.append_assoc]
  generalize s.toList = cs
  induction cs with
  | nil => simp [stringTail?]
  | cons c cs ih =>
    rw [List.flatMap_cons, List.append_assoc, stringTail?_escape, ih]
    rfl

lemma quote_append_inj {s t : String} (h : quote s ++ x = quote t ++ y) : s = t ∧ x = y := by
  have htail : (quote s).tail ++ x = (quote t).tail ++ y := (List.cons.inj h).2
  have hread := stringTail?_quote s x
  rw [htail, stringTail?_quote t y, Option.some.injEq, Prod.mk.injEq] at hread
  exact ⟨(String.toList_inj.1 hread.1).symm, hread.2.symm⟩

/-! ### Lists of items -/

section Items

variable {α : Type} (write : α → List Char) (first last : Char)

/-- Items behind commas, and the closing bracket. -/
def more : List α → List Char
  | [] => [last]
  | a :: as => ',' :: (write a ++ more as)

/-- Items in brackets. -/
def bracketed : List α → List Char
  | [] => [first, last]
  | a :: as => first :: (write a ++ more write last as)

/-- Of two items that are written at the head of a text, both are the same and end there. -/
def ToldApart (a b : α) : Prop :=
  ∀ x y, write a ++ x = write b ++ y → a = b ∧ x = y

variable {write first last} {as bs : List α}

lemma more_append_inj (hlast : last ≠ ',') (h : ∀ a ∈ as, ∀ b ∈ bs, ToldApart write a b)
    (heq : more write last as ++ x = more write last bs ++ y) : as = bs ∧ x = y := by
  induction as generalizing bs with
  | nil =>
    cases bs with
    | nil => exact ⟨rfl, (List.cons.inj heq).2⟩
    | cons b bs => exact absurd (List.cons.inj heq).1 hlast
  | cons a as ih =>
    cases bs with
    | nil => exact absurd (List.cons.inj heq).1.symm hlast
    | cons b bs =>
      have htail := (List.cons.inj heq).2
      simp only [List.append_eq, List.append_assoc] at htail
      obtain ⟨rfl, hmore⟩ := h a List.mem_cons_self b List.mem_cons_self _ _ htail
      obtain ⟨rfl, hxy⟩ := ih
        (fun c hc d hd => h c (List.mem_cons_of_mem _ hc) d (List.mem_cons_of_mem _ hd)) hmore
      exact ⟨rfl, hxy⟩

/-- Lists of items that are told apart are told apart, if none looks like a closing bracket. -/
lemma bracketed_append_inj (hlast : last ≠ ',') (h : ∀ a ∈ as, ∀ b ∈ bs, ToldApart write a b)
    (hclosed : ∀ a, a ∈ as ∨ a ∈ bs → ∀ x y, write a ++ x ≠ last :: y)
    (heq : bracketed write first last as ++ x = bracketed write first last bs ++ y) :
    as = bs ∧ x = y := by
  cases as with
  | nil =>
    cases bs with
    | nil => exact ⟨rfl, (List.cons.inj (List.cons.inj heq).2).2⟩
    | cons b bs =>
      have htail := (List.cons.inj heq).2
      simp only [List.append_eq, List.append_assoc] at htail
      exact absurd htail.symm (hclosed b (.inr List.mem_cons_self) _ _)
  | cons a as =>
    cases bs with
    | nil =>
      have htail := (List.cons.inj heq).2
      simp only [List.append_eq, List.append_assoc] at htail
      exact absurd htail (hclosed a (.inl List.mem_cons_self) _ _)
    | cons b bs =>
      have htail : more write last (a :: as) ++ x = more write last (b :: bs) ++ y :=
        congrArg (',' :: ·) (List.cons.inj heq).2
      exact more_append_inj hlast h htail

end Items

/-! ### Values -/

/-- A field is a name and a value. -/
def writeField (f : String × Json) : List Char := quote f.1 ++ ':' :: f.2.compact

lemma compact_arr (vs : List Json) : (Json.arr vs).compact = bracketed compact '[' ']' vs := by
  have hmore : ∀ vs, moreItems vs = more compact ']' vs := by
    intro vs
    induction vs with
    | nil => rfl
    | cons v vs ih => rw [moreItems, more, ih]
  cases vs with
  | nil => rfl
  | cons v vs => rw [compact, bracketed, hmore]

lemma compact_obj (fs : List (String × Json)) :
    (Json.obj fs).compact = bracketed writeField '\x7b' '\x7d' fs := by
  have hmore : ∀ fs, moreFields fs = more writeField '\x7d' fs := by
    intro fs
    induction fs with
    | nil => rfl
    | cons f fs ih => rw [moreFields, more, ih, writeField, List.append_assoc, List.cons_append]
  cases fs with
  | nil => rfl
  | cons f fs => rw [compact, bracketed, hmore, writeField, List.append_assoc, List.cons_append]

/-- A value made of texts, lists and objects only. -/
inductive Textual : Json → Prop
  | str (s : String) : Textual (.str s)
  | arr {vs : List Json} (h : ∀ v ∈ vs, Textual v) : Textual (.arr vs)
  | obj {fs : List (String × Json)} (h : ∀ f ∈ fs, Textual f.2) : Textual (.obj fs)

/-- The sign that such a value begins with. -/
def opening : Json → Char
  | .arr _ => '['
  | .obj _ => '\x7b'
  | _ => '"'

lemma Textual.head?_compact {j : Json} (h : Textual j) (x : List Char) :
    (j.compact ++ x).head? = some (opening j) := by
  cases h with
  | str s => rfl
  | @arr vs _ => cases vs <;> rfl
  | @obj fs _ => cases fs <;> rfl

/-- No value begins with a closing bracket. -/
lemma Textual.compact_append_ne {j : Json} (h : Textual j) (x y : List Char) :
    j.compact ++ x ≠ ']' :: y := by
  intro he
  have hhead := h.head?_compact x
  rw [he] at hhead
  cases h <;> simp [opening] at hhead

lemma writeField_append_ne (f : String × Json) (x y : List Char) :
    writeField f ++ x ≠ '\x7d' :: y := by
  intro he
  have hhead := congrArg List.head? he
  exact absurd (Option.some.inj hhead) (by decide)

lemma toldApart_writeField {f g : String × Json} (h : ToldApart compact f.2 g.2) :
    ToldApart writeField f g := by
  intro x y heq
  unfold writeField at heq
  rw [List.append_assoc, List.append_assoc] at heq
  obtain ⟨hname, hvalue⟩ := quote_append_inj heq
  obtain ⟨hv, hxy⟩ := h x y (List.cons.inj hvalue).2
  exact ⟨Prod.ext hname hv, hxy⟩

/-- **Values are told apart.** What stands at the head of a text is one value, and ends at one
place. -/
theorem toldApart_compact (a : Json) {b : Json} (ha : Textual a) (hb : Textual b) :
    ToldApart compact a b := by
  intro x y heq
  have hhead := ha.head?_compact x
  rw [heq, hb.head?_compact] at hhead
  match ha, hb with
  | .str s, .str t =>
    obtain ⟨rfl, hxy⟩ := quote_append_inj heq
    exact ⟨rfl, hxy⟩
  | @Textual.arr vs hvs, @Textual.arr ws hws =>
    rw [compact_arr, compact_arr] at heq
    have hitems : ∀ v ∈ vs, ∀ w ∈ ws, ToldApart compact v w :=
      fun v hv w hw => toldApart_compact v (hvs v hv) (hws w hw)
    obtain ⟨rfl, hxy⟩ := bracketed_append_inj (by decide) hitems
      (fun v hv => (hv.elim (hvs v) (hws v)).compact_append_ne) heq
    exact ⟨rfl, hxy⟩
  | @Textual.obj fs hfs, @Textual.obj gs hgs =>
    rw [compact_obj, compact_obj] at heq
    have hfields : ∀ f ∈ fs, ∀ g ∈ gs, ToldApart writeField f g :=
      fun f hf g hg => toldApart_writeField (toldApart_compact f.2 (hfs f hf) (hgs g hg))
    obtain ⟨rfl, hxy⟩ := bracketed_append_inj (by decide) hfields
      (fun f _ => writeField_append_ne f) heq
    exact ⟨rfl, hxy⟩
  | .str _, .arr _ | .str _, .obj _ | .arr _, .str _ | .arr _, .obj _ | .obj _, .str _
  | .obj _, .arr _ => simp [opening] at hhead
termination_by a
decreasing_by
  · have hsize := List.sizeOf_lt_of_mem hv
    simp only [Json.arr.sizeOf_spec]
    omega
  · have hsize := List.sizeOf_lt_of_mem hf
    obtain ⟨n, v⟩ := f
    simp only [Prod.mk.sizeOf_spec, Json.obj.sizeOf_spec] at hsize ⊢
    omega

end QueryGuard.Proofs.JsonText
