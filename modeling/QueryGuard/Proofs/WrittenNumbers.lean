import Mathlib
import QueryGuard.Proofs.Numerals
import QueryGuard.Proofs.ShortestDigits

/-!
Numbers that are read as they were written.

The text of a number is a spelling of the amount that was found for it: zeros are filled in, or the
point is moved, or a power of ten follows. A numeral that is a whole number of 64 bits is read as
such, and any other as the floating-point number nearest to it. So whole numbers and finite
floating-point numbers are all read back.
-/

namespace QueryGuard.Proofs.WrittenNumbers

open Json Numerals ShortestDigits NearestNumber

/-! ### Spellings of an amount -/

/-- The spelling stands for `s`, and cannot be taken for a whole number. -/
structure Spells (p : Spelling) (s : Decimal.Scaled) : Prop extends p.Proper where
  broken : p.fraction.isSome ∨ p.exponent.isSome
  amount : p.amount = ShortestDigits.amount s

section Shapes

variable {d : List Char} {e : ℤ} {k : ℕ}

/-- Zeros are filled in up to the point. -/
lemma spells_filled (hd : Digits d) (hne : d ≠ []) (hhead : d.head? ≠ some '0') (he : 0 ≤ e) :
    Spells ⟨d ++ List.replicate e.toNat '0', some ['0'], none⟩ ⟨natOfDigits (worth d), e⟩ where
  digits := hd.append (digits_replicate_zero _)
  nonempty := by simp [hne]
  leading := by
    dsimp only
    rw [List.head?_append_of_ne_nil _ hne]
    exact .inr hhead
  fraction := by
    intro f hf
    obtain rfl := Option.some.inj hf
    exact ⟨digits_replicate_zero 1, List.cons_ne_nil _ _⟩
  broken := .inl rfl
  amount := by
    have hzeros : worth (d ++ List.replicate e.toNat '0' ++ ['0']) =
        worth d ++ worth (List.replicate (e.toNat + 1) '0') := by
      rw [List.append_assoc, worth_append, List.replicate_succ']
    rw [Spelling.amount_eq, Option.getD_some, hzeros, natOfDigits_append, natOfDigits_worth_zeros,
      length_worth, List.length_replicate, add_zero, Nat.cast_mul, Nat.cast_pow, Nat.cast_ofNat,
      amount, mul_assoc, ← zpow_natCast, ← zpow_add₀ (by norm_num)]
    congr 2
    simp [he]

/-- The point stands among the digits. -/
lemma spells_cut (hd : Digits d) (hhead : d.head? ≠ some '0') (hk : 0 < k) (hlt : k < d.length) :
    Spells ⟨d.take k, some (d.drop k), none⟩ ⟨natOfDigits (worth d), k - d.length⟩ where
  digits := hd.of_subset (List.take_subset _ _)
  nonempty := by
    refine List.ne_nil_of_length_pos ?_
    rw [List.length_take]
    omega
  leading := by
    dsimp only
    rw [List.head?_take, if_neg hk.ne']
    exact .inr hhead
  fraction := by
    intro f hf
    obtain rfl := Option.some.inj hf
    refine ⟨hd.of_subset (List.drop_subset _ _), ?_⟩
    rw [Ne, List.drop_eq_nil_iff]
    omega
  broken := .inl rfl
  amount := by
    rw [Spelling.amount_eq, Option.getD_some, List.take_append_drop, List.length_drop, amount]
    congr 2
    simp [Nat.cast_sub hlt.le]

/-- The point stands before the digits. -/
lemma spells_small (hd : Digits d) (hne : d ≠ []) (k : ℕ) :
    Spells ⟨['0'], some (List.replicate k '0' ++ d), none⟩
      ⟨natOfDigits (worth d), -(k + d.length)⟩ where
  digits := digits_replicate_zero 1
  nonempty := List.cons_ne_nil _ _
  leading := .inl rfl
  fraction := by
    intro f hf
    obtain rfl := Option.some.inj hf
    exact ⟨(digits_replicate_zero k).append hd, by simp [hne]⟩
  broken := .inl rfl
  amount := by
    have hzeros : worth (['0'] ++ (List.replicate k '0' ++ d)) =
        worth (List.replicate (k + 1) '0') ++ worth d := by
      rw [← List.append_assoc, worth_append]
      rfl
    rw [Spelling.amount_eq, Option.getD_some, hzeros, natOfDigits_append, natOfDigits_worth_zeros,
      amount]
    simp

/-- The point stands behind the first digit, if there are others, and a power of ten follows. -/
lemma spells_raised {c : Char} (hd : Digits (c :: d)) (hc : c ≠ '0') (e : ℤ) :
    Spells ⟨[c], if d = [] then none else some d, some (e + d.length)⟩
      ⟨natOfDigits (worth (c :: d)), e⟩ where
  digits := hd.of_subset (List.cons_subset_cons c (List.nil_subset d))
  nonempty := List.cons_ne_nil _ _
  leading := .inr fun h => hc (Option.some.inj h)
  fraction := by
    intro f hf
    dsimp only at hf
    split_ifs at hf with hempty
    · cases hf
    · obtain rfl := Option.some.inj hf
      exact ⟨hd.of_subset (List.subset_cons_self c d), hempty⟩
  broken := .inr rfl
  amount := by
    have hfraction : (if d = [] then none else some d : Option (List Char)).getD [] = d := by
      split_ifs with hempty
      · rw [hempty, Option.getD_none]
      · rfl
    rw [Spelling.amount_eq, hfraction, Option.getD_some, add_sub_cancel_right, amount,
      List.singleton_append]

end Shapes

/-- **How a number is written.** What stands for an amount that is not zero is a number that reads
as this amount. -/
theorem exists_spells {s : Decimal.Scaled} (hs : s.digits ≠ 0) :
    ∃ p, Spells p s ∧ p.text = Decimal.Layout.json.magnitude s := by
  obtain ⟨n, e⟩ := s
  have hdigits := digits_digitChars n
  have hne := digitChars_ne_nil n
  have hhead := head?_digitChars hs
  have hworth := natOfDigits_digitChars n
  unfold Decimal.Layout.magnitude
  dsimp only
  generalize Decimal.digitChars n = d at *
  subst hworth
  split_ifs with hpoint hfilled hcut
  · refine ⟨_, spells_filled hdigits hne hhead hfilled, ?_⟩
    simp [Spelling.text, Spelling.fractionText, Spelling.exponentText, Decimal.Layout.json]
  · have hk : e = (e + d.length).toNat - d.length := by omega
    have hspells := spells_cut (k := (e + d.length).toNat) hdigits hhead (by omega) (by omega)
    rw [← hk] at hspells
    exact ⟨_, hspells, by simp [Spelling.text, Spelling.fractionText, Spelling.exponentText]⟩
  · have hk : e = -(((-(e + d.length)).toNat : ℕ) + d.length : ℤ) := by omega
    have hspells := spells_small hdigits hne (-(e + d.length)).toNat
    rw [← hk] at hspells
    exact ⟨_, hspells, by simp [Spelling.text, Spelling.fractionText, Spelling.exponentText]⟩
  all_goals
    rename_i hsign
    obtain ⟨c, d, rfl⟩ := List.exists_cons_of_ne_nil hne
    have hpower : e + (c :: d).length - 1 = e + d.length := by
      rw [List.length_cons]
      omega
    refine ⟨_, spells_raised hdigits (fun h => hhead (congrArg some h)) e, ?_⟩
    rw [hpower] at hsign ⊢
    generalize e + (d.length : ℤ) = power at hsign ⊢
    cases d <;> simp [Spelling.text, Spelling.fractionText, Spelling.exponentText, hsign,
      Decimal.Layout.json]

/-! ### Numbers that are read back -/

open Classical in
/-- The number that a numeral names: a whole number of 64 bits, and for any other the floating-point
number nearest to it, if there is one. -/
noncomputable def nearest? (n : Numeral) : Option Json :=
  match n.whole? with
  | some k => some (.int k)
  | none => if h : ∃ x, IsNearest n.negative n.amount x then some (.float h.choose) else none

lemma nearest?_of_isNearest {n : Numeral} {x : Float} (hwhole : n.whole? = none)
    (hx : IsNearest n.negative n.amount x) : nearest? n = some (.float x) := by
  have hexists : ∃ x, IsNearest n.negative n.amount x := ⟨x, hx⟩
  rw [nearest?, hwhole]
  dsimp only
  rw [dif_pos hexists, hexists.choose_spec.unique hx]

/-- The number at the head of a text, of what `convert` makes of its numeral. -/
def readNumber (convert : Numeral → Option Json) (s : List Char) : Option (Json × List Char) :=
  (numeral? s).bind fun (n, r) => (convert n).map (·, r)

/-- Whole numbers stay as they are. -/
def KeepsWhole (convert : Numeral → Option Json) : Prop :=
  ∀ n k, n.whole? = some k → convert n = some (.int k)

lemma keepsWhole_nearest? : KeepsWhole nearest? := fun n k h => by
  rw [nearest?, h]

lemma keepsWhole_gathered? : KeepsWhole Numeral.gathered? := fun n k h => by
  rw [Numeral.gathered?, h]

variable {convert : Numeral → Option Json} {r : List Char}

lemma readNumber_text {p : Spelling} (hp : p.Proper) (negative : Bool) (hr : Ends r) :
    readNumber convert (sign negative ++ (p.text ++ r)) =
      (convert (p.numeral negative)).map (·, r) := by
  rw [readNumber, numeral?_text hp negative hr, Option.bind_some]

/-- A whole number of 64 bits, with or without a sign. -/
def Fits64 (k : Int) : Prop := -(2 ^ 63) ≤ k ∧ k < 2 ^ 64

instance (k : Int) : Decidable (Fits64 k) := inferInstanceAs (Decidable (_ ∧ _))

/-- **Whole numbers are read back.** -/
theorem readNumber_integer (h : KeepsWhole convert) {k : Int} (hk : Fits64 k) (hr : Ends r) :
    readNumber convert (Json.integer k ++ r) = some (.int k, r) := by
  let p : Spelling := ⟨Decimal.digitChars k.natAbs, none, none⟩
  have hp : p.Proper := by
    refine ⟨digits_digitChars _, digitChars_ne_nil _, ?_, fun f hf => nomatch hf⟩
    rcases eq_or_ne k 0 with rfl | hne
    · exact .inl rfl
    · exact .inr (head?_digitChars (Int.natAbs_ne_zero.2 hne))
  have htext : Json.integer k = sign (decide (k < 0)) ++ p.text := by
    unfold Json.integer
    split_ifs with hneg <;>
      simp [sign, hneg, p, Spelling.text, Spelling.fractionText, Spelling.exponentText]
  have hwhole : (p.numeral (decide (k < 0))).whole? = some k := by
    obtain ⟨hlow, hhigh⟩ := hk
    have hdigits := natOfDigits_digitChars k.natAbs
    rcases lt_or_ge k 0 with hneg | hpos
    · rw [Numeral.whole?_of_neg rfl rfl (decide_eq_true hneg), Spelling.numeral, hdigits]
      · exact congrArg some (by omega)
      · rw [Spelling.numeral, hdigits]
        omega
      · rw [Spelling.numeral, hdigits, Decimal.halfWords64]
        omega
    · rw [Numeral.whole?_of_nonneg rfl rfl (decide_eq_false hpos.not_gt), Spelling.numeral, hdigits]
      · exact congrArg some (by omega)
      · rw [Spelling.numeral, hdigits, Decimal.words64]
        omega
  rw [htext, List.append_assoc, readNumber_text hp _ hr, h _ _ hwhole, Option.map_some]

/-- A finite number is spelled out, with a fraction or an exponent, as an amount to which it is the
nearest. -/
lemma exists_spelling_write {x : Float} {d : Decimal.Dyadic}
    (h : Decimal.Dyadic.ofFloat? x = some d) :
    ∃ p : Spelling, p.Proper ∧ (p.fraction.isSome ∨ p.exponent.isSome) ∧
      Decimal.Layout.json.write x = sign d.negative ++ p.text ∧
        IsNearest d.negative p.amount x := by
  unfold Decimal.Layout.write
  rw [h]
  dsimp only
  rcases Nat.eq_zero_or_pos d.mantissa with hzero | hpos
  · rw [if_pos hzero]
    refine ⟨⟨['0'], some ['0'], none⟩, ⟨?_, ?_, .inl rfl, ?_⟩, .inl rfl, rfl, ?_⟩
    · exact digits_replicate_zero 1
    · exact List.cons_ne_nil _ _
    · intro f hf
      obtain rfl := Option.some.inj hf
      exact ⟨digits_replicate_zero 1, List.cons_ne_nil _ _⟩
    · have hamount : natOfDigits (worth ['0', '0']) = 0 := rfl
      rw [Spelling.amount_eq, Option.getD_some, List.singleton_append, hamount, Nat.cast_zero,
        zero_mul]
      exact isNearest_zero h hzero
  · obtain ⟨p, hp, htext⟩ := exists_spells (digits_written_ne_zero h hpos)
    rw [if_neg hpos.ne']
    refine ⟨p, hp.toProper, hp.broken, ?_, ?_⟩
    · rw [htext]
      rfl
    · rw [hp.amount]
      exact isNearest_written h hpos

/-- **Floating-point numbers are read back**, those that are finite. -/
theorem readNumber_float {x : Float} (hx : (Decimal.Dyadic.ofFloat? x).isSome) (hr : Ends r) :
    readNumber nearest? (Decimal.Layout.json.write x ++ r) = some (.float x, r) := by
  obtain ⟨d, hd⟩ := Option.isSome_iff_exists.1 hx
  obtain ⟨p, hp, hbroken, htext, hnear⟩ := exists_spelling_write hd
  have hwhole : (p.numeral d.negative).whole? = none := by
    refine Numeral.whole?_of_broken (hbroken.imp_left fun hfraction => ?_)
    rwa [Spelling.numeral, Option.isSome_map]
  rw [htext, List.append_assoc, readNumber_text hp _ hr, nearest?_of_isNearest hwhole hnear,
    Option.map_some]

end QueryGuard.Proofs.WrittenNumbers
