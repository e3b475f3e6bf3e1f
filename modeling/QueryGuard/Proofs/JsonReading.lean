import Mathlib
import QueryGuard.Proofs.JsonFields
import QueryGuard.Proofs.JsonText
import QueryGuard.Proofs.WrittenNumbers

/-!
What the text of a value means.

The reader is looked at with two things left open, what it makes of a numeral and how many brackets
may stand inside one another. The reader of the program gathers digits in 64 bits, so that long
numerals are read only nearly, and stops at 127 brackets. In the meaning of a text a numeral is the
nearest number, and there is no such bound. Whatever the two are, a value is read from its compact
text if its numbers are and its brackets are within the bound. So the meaning of the text of a value
is the value.
-/

namespace QueryGuard.Proofs.JsonReading

open Json Numerals WrittenNumbers JsonText JsonFields

/-! ### Readers -/

section Reader

variable (convert : Numeral → Option Json)

mutual

/-- One value; a number is what `convert` makes of its numeral. -/
def readValue (fuel depth : ℕ) (s : List Char) : Option (Json × List Char) :=
  match fuel with
  | 0 => none
  | fuel + 1 =>
    match skipSpace s with
    | '"' :: t => (stringTail? t).map fun (cs, r) => (str (String.ofList cs), r)
    | '[' :: t =>
      match depth with
      | 0 => none
      | depth + 1 =>
        match skipSpace t with
        | ']' :: r => some (arr [], r)
        | _ => (readItems fuel depth t).map fun (vs, r) => (arr vs, r)
    | '\x7b' :: t =>
      match depth with
      | 0 => none
      | depth + 1 =>
        match skipSpace t with
        | '\x7d' :: r => some (obj [], r)
        | _ => (readMembers fuel depth t).map fun (fs, r) => (obj (ofFields fs), r)
    | 'n' :: t => literal? "ull" null t
    | 't' :: t => literal? "rue" (bool true) t
    | 'f' :: t => literal? "alse" (bool false) t
    | t => readNumber convert t

def readItems (fuel depth : ℕ) (s : List Char) : Option (List Json × List Char) :=
  match fuel with
  | 0 => none
  | fuel + 1 =>
    match readValue fuel depth s with
    | none => none
    | some (v, r) =>
      match skipSpace r with
      | ']' :: t => some ([v], t)
      | ',' :: t => (readItems fuel depth t).map fun (vs, u) => (v :: vs, u)
      | _ => none

def readMembers (fuel depth : ℕ) (s : List Char) : Option (List (String × Json) × List Char) :=
  match fuel with
  | 0 => none
  | fuel + 1 =>
    match skipSpace s with
    | '"' :: t =>
      match stringTail? t with
      | none => none
      | some (name, r) =>
        match skipSpace r with
        | ':' :: u =>
          match readValue fuel depth u with
          | none => none
          | some (v, w) =>
            let f := (String.ofList name, v)
            match skipSpace w with
            | '\x7d' :: x => some ([f], x)
            | ',' :: x => (readMembers fuel depth x).map fun (fs, y) => (f :: fs, y)
            | _ => none
        | _ => none
    | _ => none

end

/-- The value of a whole text with at most `depth` brackets inside one another. -/
def readText (depth : ℕ) (text : String) : Option Json :=
  let s := text.toList
  match readValue convert (2 * s.length + 2) depth s with
  | some (v, r) => if (skipSpace r).isEmpty then some v else none
  | none => none

end Reader

/-- The value that a text means: a number is the nearest one, and there are no more brackets than
signs. -/
noncomputable def meaning? (text : String) : Option Json :=
  readText nearest? text.toList.length text

lemma reads_gathered (fuel : ℕ) : ∀ depth s,
    value? fuel depth s = readValue Numeral.gathered? fuel depth s ∧
      items? fuel depth s = readItems Numeral.gathered? fuel depth s ∧
        members? fuel depth s = readMembers Numeral.gathered? fuel depth s := by
  induction fuel with
  | zero => exact fun _ _ => ⟨rfl, rfl, rfl⟩
  | succ fuel ih =>
    intro depth s
    have hvalue : value? fuel = readValue Numeral.gathered? fuel :=
      funext fun depth => funext fun s => (ih depth s).1
    have hitems : items? fuel = readItems Numeral.gathered? fuel :=
      funext fun depth => funext fun s => (ih depth s).2.1
    have hmembers : members? fuel = readMembers Numeral.gathered? fuel :=
      funext fun depth => funext fun s => (ih depth s).2.2
    have hnumber : number? = readNumber Numeral.gathered? := funext number?_eq
    refine ⟨?_, ?_, ?_⟩
    · rw [value?, hitems, hmembers, hnumber]
      rfl
    · rw [items?, hvalue, hitems]
      rfl
    · rw [members?, hvalue, hmembers]
      rfl

/-- **The reader of the program.** -/
theorem parse?_eq (text : String) : parse? text = readText Numeral.gathered? 127 text := by
  rw [parse?, (reads_gathered _ _ _).1]
  rfl

/-! ### Values -/

/-- A value with at most `depth` brackets inside one another. Whole numbers have 64 bits,
floating-point numbers are among `floats`, and names stand in increasing order. -/
inductive Within (floats : Float → Prop) : ℕ → Json → Prop
  | null {depth : ℕ} : Within floats depth .null
  | bool {depth : ℕ} (b : Bool) : Within floats depth (.bool b)
  | int {depth : ℕ} {n : Int} (h : Fits64 n) : Within floats depth (.int n)
  | float {depth : ℕ} {x : Float} (h : floats x) : Within floats depth (.float x)
  | str {depth : ℕ} (s : String) : Within floats depth (.str s)
  | arr {depth : ℕ} {vs : List Json} (h : ∀ v ∈ vs, Within floats depth v) :
    Within floats (depth + 1) (.arr vs)
  | obj {depth : ℕ} {fs : List (String × Json)} (hfs : Increasing fs)
    (h : ∀ f ∈ fs, Within floats depth f.2) : Within floats (depth + 1) (.obj fs)

/-- The floating-point numbers that are numbers. -/
def Finite (x : Float) : Prop := (Decimal.Dyadic.ofFloat? x).isSome

/-- What a value can be. -/
def IsValue (j : Json) : Prop := ∃ depth, Within Finite depth j

section Reading

variable {convert : Numeral → Option Json} {floats : Float → Prop} {fuel depth : ℕ}
  {s r : List Char} {v j : Json}

lemma skipSpace_cons {c : Char} (hc : isSpace c = false) (s : List Char) :
    skipSpace (c :: s) = c :: s := List.dropWhile_cons_of_neg (by simp [hc])

lemma numeral?_cons_of_not {c : Char} (hsign : c ≠ '-') (hdigit : c.isDigit = false)
    (s : List Char) : numeral? (c :: s) = none := by
  simp [numeral?, hsign, Json.whole?, digits?, Json.digits, hdigit]

/-- What is read as a number begins as one. -/
lemma exists_cons_of_readNumber {x : Json × List Char} (h : readNumber convert s = some x) :
    ∃ c t, s = c :: t ∧ (c = '-' ∨ c.isDigit = true) := by
  cases s with
  | nil => cases h
  | cons c t =>
    refine ⟨c, t, rfl, ?_⟩
    by_contra hnot
    rw [not_or, Bool.not_eq_true] at hnot
    rw [readNumber, numeral?_cons_of_not hnot.1 hnot.2] at h
    cases h

lemma readValue_of_readNumber {x : Json × List Char} (h : readNumber convert s = some x) :
    readValue convert (fuel + 1) depth s = some x := by
  obtain ⟨c, t, rfl, hc⟩ := exists_cons_of_readNumber h
  have hother : ∀ d, (d = '-' ∨ d.isDigit = true) = False → c ≠ d := by
    rintro d hd rfl
    exact hd ▸ hc
  have hspace : isSpace c = false := by
    simp [isSpace, hother ' ' (by decide), hother '\n' (by decide), hother '\t' (by decide),
      hother '\r' (by decide)]
  rw [readValue, skipSpace_cons hspace]
  split
  case h_7 => exact h
  all_goals
    rename_i heq
    exact absurd (List.cons.inj heq).1 (hother _ (by decide))

/-- No value begins with a closing bracket. -/
lemma readValue_closed (hs : skipSpace s = ']' :: r) : readValue convert fuel depth s = none := by
  cases fuel with
  | zero => rfl
  | succ fuel =>
    rw [readValue, hs]
    exact Option.bind_eq_none_iff.2 fun _ h => by
      rw [numeral?_cons_of_not (by decide) (by decide)] at h
      cases h

lemma more_nil_append {α : Type} (write : α → List Char) (last : Char) (r : List Char) :
    more write last [] ++ r = last :: r := rfl

lemma more_cons_append {α : Type} (write : α → List Char) (last : Char) (a : α) (as : List α)
    (r : List Char) :
    more write last (a :: as) ++ r = ',' :: (write a ++ (more write last as ++ r)) := by
  rw [more, List.cons_append, List.append_assoc]

lemma ends_more {α : Type} {write : α → List Char} {last : Char}
    (hlast : last = ']' ∨ last = '\x7d') (as : List α) (r : List Char) :
    Ends (more write last as ++ r) := by
  intro c hc
  cases as with
  | nil =>
    obtain rfl := Option.some.inj hc
    rcases hlast with rfl | rfl <;> decide
  | cons a as =>
    obtain rfl := Option.some.inj hc
    decide

/-- A text from which `v` is read, with enough fuel. -/
def ReadFrom (convert : Numeral → Option Json) (depth : ℕ) (v : Json) : Prop :=
  ∀ fuel, 2 * v.compact.length ≤ fuel → ∀ r, Ends r →
    readValue convert fuel depth (v.compact ++ r) = some (v, r)

lemma readItems_last {fuel : ℕ} (hv : readValue convert fuel depth s = some (v, ']' :: r)) :
    readItems convert (fuel + 1) depth s = some ([v], r) := by
  rw [readItems, hv]
  rfl

lemma readItems_next {fuel : ℕ} (hv : readValue convert fuel depth s = some (v, ',' :: r)) :
    readItems convert (fuel + 1) depth s =
      (readItems convert fuel depth r).map fun (vs, u) => (v :: vs, u) := by
  rw [readItems, hv]
  rfl

variable {name t : List Char}

lemma readMembers_last {fuel : ℕ} (hname : stringTail? s = some (name, ':' :: t))
    (hv : readValue convert fuel depth t = some (v, '\x7d' :: r)) :
    readMembers convert (fuel + 1) depth ('"' :: s) = some ([(String.ofList name, v)], r) := by
  simp [readMembers, skipSpace_cons, isSpace, hname, hv]

lemma readMembers_next {fuel : ℕ} (hname : stringTail? s = some (name, ':' :: t))
    (hv : readValue convert fuel depth t = some (v, ',' :: r)) :
    readMembers convert (fuel + 1) depth ('"' :: s) =
      (readMembers convert fuel depth r).map fun (fs, u) => ((String.ofList name, v) :: fs, u) := by
  simp [readMembers, skipSpace_cons, isSpace, hname, hv]

/-- Items are read up to the closing bracket. -/
lemma readItems_more {vs : List Json} (hv : ReadFrom convert depth v)
    (hvs : ∀ w ∈ vs, ReadFrom convert depth w)
    (hfuel : 2 * (v.compact ++ more compact ']' vs).length ≤ fuel) (r : List Char) :
    readItems convert fuel depth (v.compact ++ (more compact ']' vs ++ r)) = some (v :: vs, r) := by
  induction vs generalizing v fuel with
  | nil =>
    rw [List.length_append, more, List.length_singleton] at hfuel
    obtain ⟨fuel, rfl⟩ : ∃ k, fuel = k + 1 := Nat.exists_eq_succ_of_ne_zero (by omega)
    exact readItems_last (hv fuel (by omega) _ (ends_more (.inl rfl) [] r))
  | cons w vs ih =>
    rw [List.length_append, more, List.length_cons] at hfuel
    obtain ⟨fuel, rfl⟩ : ∃ k, fuel = k + 1 := Nat.exists_eq_succ_of_ne_zero (by omega)
    obtain ⟨hw, hvs⟩ := List.forall_mem_cons.1 hvs
    have hread := hv fuel (by omega) (more compact ']' (w :: vs) ++ r) (ends_more (.inl rfl) _ r)
    rw [more_cons_append] at hread ⊢
    rw [readItems_next hread, ih hw hvs (by omega), Option.map_some]

lemma writeField_append (f : String × Json) (r : List Char) :
    writeField f ++ r = '"' :: ((quote f.1).tail ++ ':' :: (f.2.compact ++ r)) := by
  rw [writeField, List.append_assoc]
  rfl

lemma length_compact_lt_writeField (f : String × Json) :
    f.2.compact.length < (writeField f).length := by
  rw [writeField, List.length_append, List.length_cons]
  omega

/-- Fields are read up to the closing brace. -/
lemma readMembers_more {f : String × Json} {fs : List (String × Json)}
    (hf : ReadFrom convert depth f.2) (hfs : ∀ g ∈ fs, ReadFrom convert depth g.2)
    (hfuel : 2 * (writeField f ++ more writeField '\x7d' fs).length ≤ fuel) (r : List Char) :
    readMembers convert fuel depth (writeField f ++ (more writeField '\x7d' fs ++ r)) =
      some (f :: fs, r) := by
  induction fs generalizing f fuel with
  | nil =>
    have hlt := length_compact_lt_writeField f
    rw [List.length_append, more, List.length_singleton] at hfuel
    obtain ⟨fuel, rfl⟩ : ∃ k, fuel = k + 1 := Nat.exists_eq_succ_of_ne_zero (by omega)
    have hread := hf fuel (by omega) (more writeField '\x7d' [] ++ r) (ends_more (.inr rfl) _ r)
    rw [more_nil_append] at hread ⊢
    rw [writeField_append, readMembers_last (stringTail?_quote f.1 _) hread, String.ofList_toList]
  | cons g fs ih =>
    have hlt := length_compact_lt_writeField f
    rw [List.length_append, more, List.length_cons] at hfuel
    obtain ⟨fuel, rfl⟩ : ∃ k, fuel = k + 1 := Nat.exists_eq_succ_of_ne_zero (by omega)
    obtain ⟨hg, hfs⟩ := List.forall_mem_cons.1 hfs
    have hread := hf fuel (by omega) (more writeField '\x7d' (g :: fs) ++ r)
      (ends_more (.inr rfl) _ r)
    rw [more_cons_append] at hread ⊢
    rw [writeField_append, readMembers_next (stringTail?_quote f.1 _) hread, ih hg hfs (by omega),
      Option.map_some, String.ofList_toList]

/-- Items that are read do not begin with a closing bracket. -/
lemma readValue_items {vs : List Json} (h : readItems convert fuel depth t = some (vs, r)) :
    readValue convert (fuel + 1) (depth + 1) ('[' :: t) = some (.arr vs, r) := by
  have hopen : ∀ u, skipSpace t ≠ ']' :: u := by
    intro u hu
    cases fuel with
    | zero => cases h
    | succ fuel =>
      rw [readItems, readValue_closed hu] at h
      cases h
  rw [readValue, skipSpace_cons (by decide)]
  show (match skipSpace t with
    | ']' :: r => some (arr [], r)
    | _ => (readItems convert fuel depth t).map fun (vs, r) => (arr vs, r)) = some (.arr vs, r)
  split
  · rename_i u hu
    exact absurd hu (hopen u)
  · rw [h, Option.map_some]

/-- Fields that are read begin with a name. -/
lemma readValue_members {fs : List (String × Json)}
    (h : readMembers convert fuel depth t = some (fs, r)) :
    readValue convert (fuel + 1) (depth + 1) ('\x7b' :: t) = some (.obj (ofFields fs), r) := by
  have hopen : ∀ u, skipSpace t ≠ '\x7d' :: u := by
    intro u hu
    cases fuel with
    | zero => cases h
    | succ fuel =>
      rw [readMembers, hu] at h
      cases h
  rw [readValue, skipSpace_cons (by decide)]
  show (match skipSpace t with
    | '\x7d' :: r => some (obj [], r)
    | _ => (readMembers convert fuel depth t).map fun (fs, r) => (obj (ofFields fs), r)) =
      some (.obj (ofFields fs), r)
  split
  · rename_i u hu
    exact absurd hu (hopen u)
  · rw [h, Option.map_some]

lemma readFrom_arr {vs : List Json} (h : ∀ v ∈ vs, ReadFrom convert depth v) :
    ReadFrom convert (depth + 1) (.arr vs) := by
  intro fuel hfuel r _
  rw [compact_arr] at hfuel ⊢
  cases vs with
  | nil =>
    rw [bracketed, List.length_cons] at hfuel
    obtain ⟨fuel, rfl⟩ : ∃ k, fuel = k + 1 := Nat.exists_eq_succ_of_ne_zero (by omega)
    rfl
  | cons v vs =>
    rw [bracketed, List.length_cons] at hfuel
    obtain ⟨fuel, rfl⟩ : ∃ k, fuel = k + 1 := Nat.exists_eq_succ_of_ne_zero (by omega)
    rw [bracketed, List.cons_append, List.append_assoc]
    obtain ⟨hv, hvs⟩ := List.forall_mem_cons.1 h
    exact readValue_items (readItems_more hv hvs (by omega) r)

lemma readFrom_obj {fs : List (String × Json)} (hfs : Increasing fs)
    (h : ∀ f ∈ fs, ReadFrom convert depth f.2) : ReadFrom convert (depth + 1) (.obj fs) := by
  intro fuel hfuel r _
  rw [compact_obj] at hfuel ⊢
  cases fs with
  | nil =>
    rw [bracketed, List.length_cons] at hfuel
    obtain ⟨fuel, rfl⟩ : ∃ k, fuel = k + 1 := Nat.exists_eq_succ_of_ne_zero (by omega)
    rfl
  | cons f fs =>
    rw [bracketed, List.length_cons] at hfuel
    obtain ⟨fuel, rfl⟩ : ∃ k, fuel = k + 1 := Nat.exists_eq_succ_of_ne_zero (by omega)
    rw [bracketed, List.cons_append, List.append_assoc]
    obtain ⟨hf, hmore⟩ := List.forall_mem_cons.1 h
    rw [readValue_members (readMembers_more hf hmore (by omega) r), ofFields_of_increasing hfs]

/-- A value without brackets needs one step. -/
lemma readFrom_of_step (hne : j.compact ≠ [])
    (h : ∀ fuel r, Ends r → readValue convert (fuel + 1) depth (j.compact ++ r) = some (j, r)) :
    ReadFrom convert depth j := by
  intro fuel hfuel r hr
  have hpos := List.length_pos_iff.2 hne
  obtain ⟨fuel, rfl⟩ : ∃ k, fuel = k + 1 := Nat.exists_eq_succ_of_ne_zero (by omega)
  exact h fuel r hr

lemma ends_nil : Ends [] := fun _ h => nomatch h

lemma readFrom_number
    (h : ∀ r, Ends r → readNumber convert (j.compact ++ r) = some (j, r)) :
    ReadFrom convert depth j := by
  refine readFrom_of_step (fun hnil => ?_) fun _ r hr => readValue_of_readNumber (h r hr)
  have hread := h [] ends_nil
  rw [hnil] at hread
  cases hread

lemma readFrom_str (s : String) : ReadFrom convert depth (.str s) := by
  refine readFrom_of_step (List.cons_ne_nil _ _) fun fuel r _ => ?_
  have htail := stringTail?_quote s r
  have htext : compact (.str s) ++ r = '"' :: ((quote s).tail ++ r) := rfl
  rw [htext, readValue, skipSpace_cons (by decide)]
  show (stringTail? ((quote s).tail ++ r)).map (fun (cs, r) => (str (String.ofList cs), r)) = _
  rw [htail, Option.map_some]
  dsimp only
  rw [String.ofList_toList]

/-- **Values are read back**, where floating-point numbers are. -/
theorem readFrom_of_within (hwhole : KeepsWhole convert)
    (hfloat : ∀ x, floats x → ∀ r, Ends r →
      readNumber convert (Decimal.Layout.json.write x ++ r) = some (.float x, r))
    (h : Within floats depth j) : ReadFrom convert depth j := by
  induction h with
  | null => exact readFrom_of_step (List.cons_ne_nil _ _) fun _ _ _ => rfl
  | bool b => cases b <;> exact readFrom_of_step (List.cons_ne_nil _ _) fun _ _ _ => rfl
  | int hn => exact readFrom_number fun r hr => readNumber_integer hwhole hn hr
  | float hx => exact readFrom_number fun r hr => hfloat _ hx r hr
  | str s => exact readFrom_str s
  | arr _ ih => exact readFrom_arr ih
  | obj hfs _ ih => exact readFrom_obj hfs ih

lemma readText_render {limit : ℕ} (h : ReadFrom convert limit j) :
    readText convert limit (render j) = some j := by
  have hread := h (2 * j.compact.length + 2) (by omega) [] ends_nil
  rw [List.append_nil] at hread
  rw [readText, render, String.toList_ofList, hread]
  rfl

end Reading

/-! ### Depth -/

section Depth

variable {floats : Float → Prop} {depth limit : ℕ} {j : Json}

lemma Within.mono (h : Within floats depth j) (hle : depth ≤ limit) : Within floats limit j := by
  induction h generalizing limit with
  | null => exact .null
  | bool b => exact .bool b
  | int hn => exact .int hn
  | float hx => exact .float hx
  | str s => exact .str s
  | arr _ ih =>
    obtain ⟨limit, rfl⟩ : ∃ k, limit = k + 1 := Nat.exists_eq_succ_of_ne_zero (by omega)
    exact .arr fun v hv => ih v hv (by omega)
  | obj hfs _ ih =>
    obtain ⟨limit, rfl⟩ : ∃ k, limit = k + 1 := Nat.exists_eq_succ_of_ne_zero (by omega)
    exact .obj hfs fun f hf => ih f hf (by omega)

section Length

variable {α : Type} (write : α → List Char) (first last : Char) {as : List α} {a : α}

lemma length_lt_more (h : a ∈ as) : (write a).length < (more write last as).length := by
  induction as with
  | nil => cases h
  | cons b as ih =>
    rw [more, List.length_cons, List.length_append]
    rcases List.mem_cons.1 h with rfl | hmem
    · omega
    · have hlt := ih hmem
      omega

lemma length_lt_bracketed (h : a ∈ as) :
    (write a).length < (bracketed write first last as).length := by
  cases as with
  | nil => cases h
  | cons b as => exact length_lt_more write last h

lemma bracketed_ne_nil (as : List α) :
    bracketed write first last as ≠ [] := by
  cases as <;> exact List.cons_ne_nil _ _

end Length

/-- The text of a value is longer than its brackets are deep. -/
lemma Within.length (h : Within floats depth j) : Within floats j.compact.length j := by
  induction h with
  | null => exact .null
  | bool b => exact .bool b
  | int hn => exact .int hn
  | float hx => exact .float hx
  | str s => exact .str s
  | @arr _ vs _ ih =>
    rw [compact_arr]
    obtain ⟨k, hk⟩ := Nat.exists_eq_add_one.2
      (List.length_pos_of_ne_nil (bracketed_ne_nil compact '[' ']' vs))
    rw [hk]
    refine .arr fun v hv => (ih v hv).mono ?_
    have hlt := length_lt_bracketed compact '[' ']' hv
    omega
  | @obj _ fs hfs _ ih =>
    rw [compact_obj]
    obtain ⟨k, hk⟩ := Nat.exists_eq_add_one.2
      (List.length_pos_of_ne_nil (bracketed_ne_nil writeField '\x7b' '\x7d' fs))
    rw [hk]
    refine .obj hfs fun f hf => (ih f hf).mono ?_
    have hfield := length_compact_lt_writeField f
    have hlt := length_lt_bracketed writeField '\x7b' '\x7d' hf
    omega

end Depth

/-- **The meaning of the text of a value is the value.** -/
theorem meaning?_render {j : Json} (h : IsValue j) : meaning? (render j) = some j := by
  obtain ⟨depth, h⟩ := h
  have hread : ReadFrom nearest? j.compact.length j :=
    readFrom_of_within keepsWhole_nearest? (fun x hx r hr => readNumber_float hx hr) h.length
  rw [meaning?, render, String.toList_ofList]
  exact readText_render hread

/-- **The program reads it too**, if there are no floating-point numbers in it and not too many
brackets. -/
theorem parse?_render {j : Json} (h : Within (fun _ => False) 127 j) :
    parse? (render j) = some j := by
  rw [parse?_eq]
  exact readText_render (readFrom_of_within keepsWhole_gathered? (fun _ hx => hx.elim) h)

end QueryGuard.Proofs.JsonReading
