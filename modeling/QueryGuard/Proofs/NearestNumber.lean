import Mathlib
import QueryGuard.Decimal.Shortest

/-!
The floating-point number nearest to an exact one.

A finite number is a mantissa of 53 bits times a power of two. In its normal form the mantissa is
full or the exponent is the least, so that sizes in normal form are compared by their mantissas when
the exponents agree, and by their exponents otherwise. From that come the two neighbours of a
number, and that what lies between the midpoints to them is nearer to it than to any other. On a
midpoint two numbers are as near, and of those one has an even mantissa: so there is at most one
nearest number.
-/

namespace QueryGuard.Proofs.NearestNumber

/-- The number `m · 2 ^ e`. -/
def size (m : ℕ) (e : ℤ) : ℚ := m * 2 ^ e

/-- The mantissa has 53 bits, and the exponent is not below the least. There is no greatest
exponent here. -/
structure Fits (m : ℕ) (e : ℤ) : Prop where
  lt : m < 2 * Decimal.hidden
  le : -1074 ≤ e

/-- The first bit of the mantissa is set, unless the exponent is the least. -/
structure Normal (m : ℕ) (e : ℤ) : Prop extends Fits m e where
  full : Decimal.hidden ≤ m ∨ e = -1074

variable {m n : ℕ} {e f : ℤ} {q : ℚ}

/-! ### Sizes -/

lemma size_zero (e : ℤ) : size 0 e = 0 := by
  simp [size]

lemma size_lt_size : size m e < size n e ↔ m < n := by
  have hpos : (0 : ℚ) < 2 ^ e := zpow_pos two_pos e
  rw [size, size, mul_lt_mul_iff_left₀ hpos, Nat.cast_lt]

lemma size_le_size : size m e ≤ size n e ↔ m ≤ n := by
  rw [← not_lt, size_lt_size, not_lt]

lemma size_inj : size m e = size n e ↔ m = n := by
  rw [le_antisymm_iff, size_le_size, size_le_size, le_antisymm_iff]

/-- A number written with a smaller exponent. -/
lemma size_of_le (h : e ≤ f) (n : ℕ) : size n f = size (n * 2 ^ (f - e).toNat) e := by
  have hf : f = ((f - e).toNat : ℤ) + e := by omega
  have hpow : (2 : ℚ) ^ f = 2 ^ (f - e).toNat * 2 ^ e := by
    conv_lhs => rw [hf, zpow_add₀ two_ne_zero, zpow_natCast]
  rw [size, size, hpow, Nat.cast_mul, Nat.cast_pow, Nat.cast_ofNat, mul_assoc]

lemma two_mul_le_shift (h : f < e) (m : ℕ) : 2 * m ≤ m * 2 ^ (e - f).toNat := by
  have hpow : 2 ^ 1 ≤ 2 ^ (e - f).toNat := Nat.pow_le_pow_right two_pos (by omega)
  rw [mul_comm]
  exact Nat.mul_le_mul_left m hpow

/-- A smaller exponent than that of a number in normal form leaves less room. -/
lemma Normal.lt_shift (hm : Normal m e) (hn : Fits n f) (h : f < e) :
    n < m * 2 ^ (e - f).toNat := by
  have hfull : Decimal.hidden ≤ m := hm.full.resolve_right fun he => by
    have hle := hn.le
    omega
  have hshift := two_mul_le_shift h m
  have hlt := hn.lt
  omega

/-- **One form.** -/
theorem Normal.unique (hm : Normal m e) (hn : Normal n f) (h : size m e = size n f) :
    m = n ∧ e = f := by
  rcases lt_trichotomy e f with hef | rfl | hfe
  · rw [size_of_le hef.le, size_inj] at h
    exact absurd h (hn.lt_shift hm.toFits hef).ne
  · exact ⟨size_inj.1 h, rfl⟩
  · rw [size_of_le hfe.le, size_inj] at h
    exact absurd h.symm (hm.lt_shift hn.toFits hfe).ne

/-! ### Neighbours -/

lemma size_succ_le (hm : Normal m e) (hn : Fits n f) (h : size m e < size n f) :
    size (m + 1) e ≤ size n f := by
  rcases le_or_gt e f with hef | hfe
  · rw [size_of_le hef, size_lt_size] at h
    rw [size_of_le hef, size_le_size]
    exact h
  · rw [size_of_le hfe.le, size_lt_size] at h
    exact absurd h (hm.lt_shift hn hfe).asymm

/-- How far the next smaller number is away, in half units: below a power of two it is half as
far. -/
def below (m : ℕ) (e : ℤ) : ℕ := if m = Decimal.hidden ∧ -1074 < e then 1 else 2

lemma below_le_two (m : ℕ) (e : ℤ) : below m e ≤ 2 := by
  unfold below
  split <;> omega

lemma size_le_pred (hm : Normal m e) (hn : Fits n f) (h : size n f < size m e) :
    size n f ≤ size (2 * m - below m e) (e - 1) := by
  have htwo := below_le_two m e
  rcases le_or_gt e f with hef | hfe
  · rw [size_of_le hef, size_lt_size] at h
    rw [size_of_le hef, size_of_le (sub_one_lt e).le, size_le_size, sub_sub_cancel]
    have hone : (1 : ℤ).toNat = 1 := rfl
    rw [hone, pow_one]
    omega
  · have hfull : Decimal.hidden ≤ m := hm.full.resolve_right fun he => by
      have hle := hn.le
      omega
    have hpred : n ≤ 2 * m - below m e := by
      have hlt := hn.lt
      have hle := hn.le
      unfold below
      split <;> omega
    have hpow : 1 ≤ 2 ^ (e - 1 - f).toNat := Nat.one_le_two_pow
    rw [size_of_le (show f ≤ e - 1 by omega) (2 * m - below m e), size_le_size]
    calc n ≤ (2 * m - below m e) * 1 := by rwa [mul_one]
      _ ≤ (2 * m - below m e) * 2 ^ (e - 1 - f).toNat := Nat.mul_le_mul_left _ hpow

/-! ### The nearest number -/

/-- No number is nearer to `q`, and if another one is as near, the mantissa is even. -/
structure Nearest (q : ℚ) (m : ℕ) (e : ℤ) : Prop where
  normal : Normal m e
  least : ∀ {n f}, Fits n f → |q - size m e| ≤ |q - size n f|
  even : ∀ {n f}, Fits n f → size n f ≠ size m e → |q - size n f| = |q - size m e| → Even m

section Midpoint

variable {s t : ℚ}

lemma abs_sub_le_above (hst : s < t) (hq : 2 * q ≤ s + t) : |q - s| ≤ |q - t| := by
  rw [abs_sub_comm q t]
  refine le_trans (abs_le.2 ⟨?_, ?_⟩) (le_abs_self (t - q)) <;> linarith

lemma abs_sub_le_below (hst : t < s) (hq : s + t ≤ 2 * q) : |q - s| ≤ |q - t| := by
  refine le_trans (abs_le.2 ⟨?_, ?_⟩) (le_abs_self (q - t)) <;> linarith

lemma two_mul_eq_of_abs_sub_eq (hst : s ≠ t) (h : |q - s| = |q - t|) : 2 * q = s + t := by
  rcases abs_eq_abs.1 h with heq | heq
  · exact absurd (sub_right_injective heq) hst
  · linarith

end Midpoint

/-- Of two numbers that are both nearest none is smaller. Both mantissas would be even, and there
would be an odd one between them. -/
lemma Nearest.size_le (hm : Nearest q m e) (hn : Nearest q n f) : size n f ≤ size m e := by
  refine not_lt.1 fun hlt => ?_
  have htie : |q - size m e| = |q - size n f| :=
    le_antisymm (hm.least hn.normal.toFits) (hn.least hm.normal.toFits)
  have hmid := two_mul_eq_of_abs_sub_eq hlt.ne htie
  obtain ⟨a, ha⟩ := hm.even hn.normal.toFits hlt.ne' htie.symm
  obtain ⟨b, hb⟩ := hn.even hm.normal.toFits hlt.ne htie
  have hodd : Fits (m + 1) e := by
    have hbound := hm.normal.lt
    refine ⟨?_, hm.normal.le⟩
    unfold Decimal.hidden at hbound ⊢
    omega
  have hself : size m e < size (m + 1) e := size_lt_size.2 (Nat.lt_succ_self m)
  rcases (size_succ_le hm.normal hn.normal.toFits hlt).lt_or_eq with hbetween | heq
  · have htie' : |q - size (m + 1) e| = |q - size n f| :=
      le_antisymm (abs_sub_le_above hbetween (by linarith)) (htie ▸ hm.least hodd)
    have hmid' := two_mul_eq_of_abs_sub_eq hbetween.ne htie'
    linarith
  · rcases le_or_gt e f with hef | hfe
    · rw [size_of_le hef, size_inj, hb] at heq
      have heven : Even ((b + b) * 2 ^ (f - e).toNat) := (Even.add_self b).mul_right _
      rw [← heq, ha, ← Nat.not_odd_iff_even] at heven
      exact heven (Even.add_self a).add_one
    · -- with a smaller exponent the mantissa would be too large
      have hshift := hm.normal.lt_shift hn.normal.toFits hfe
      rw [size_of_le hfe.le, size_inj] at heq
      rw [← heq] at hshift
      exact absurd hshift (Nat.mul_le_mul_right _ (Nat.le_succ m)).not_gt

/-- **Only one.** -/
theorem Nearest.unique (hm : Nearest q m e) (hn : Nearest q n f) : m = n ∧ e = f :=
  hm.normal.unique hn.normal (le_antisymm (hn.size_le hm) (hm.size_le hn))

lemma nearest_zero : Nearest 0 0 (-1074) where
  normal := ⟨⟨by decide, le_rfl⟩, .inr rfl⟩
  least := fun _ => by
    rw [size_zero, sub_zero, abs_zero]
    exact abs_nonneg _
  even := fun _ _ _ => Even.zero

/-! ### Between the midpoints -/

lemma zpow_eq_four_mul (e : ℤ) : (2 : ℚ) ^ e = 4 * 2 ^ (e - 2) := by
  rw [show e = 2 + (e - 2) by omega, zpow_add₀ two_ne_zero]
  norm_num

lemma two_mul_size_upper (m : ℕ) (e : ℤ) :
    2 * size (4 * m + 2) (e - 2) = size m e + size (m + 1) e := by
  rw [size, size, size, zpow_eq_four_mul e]
  push_cast
  ring

lemma two_mul_size_lower (hpos : 0 < m) (e : ℤ) :
    2 * size (4 * m - below m e) (e - 2) = size m e + size (2 * m - below m e) (e - 1) := by
  have htwo := below_le_two m e
  have hhalf : (2 : ℚ) ^ (e - 1) = 2 * 2 ^ (e - 2) := by
    rw [show e - 1 = 1 + (e - 2) by omega, zpow_add₀ two_ne_zero, zpow_one]
  rw [size, size, size, zpow_eq_four_mul e, hhalf, Nat.cast_sub (by omega),
    Nat.cast_sub (by omega)]
  push_cast
  ring

/-- **Between the midpoints.** What lies between the midpoints to the neighbours of a number, or at
one if the mantissa is even, is nearest to it. -/
theorem nearest_of_between (hm : Normal m e) (hpos : 0 < m)
    (hlower : size (4 * m - below m e) (e - 2) ≤ q) (hupper : q ≤ size (4 * m + 2) (e - 2))
    (hodd : ¬Even m → size (4 * m - below m e) (e - 2) ≠ q ∧ q ≠ size (4 * m + 2) (e - 2)) :
    Nearest q m e := by
  have hbelow := two_mul_size_lower hpos e
  have habove := two_mul_size_upper m e
  refine ⟨hm, fun {n f} hn => ?_, fun {n f} hn hne htie => ?_⟩
  · rcases lt_trichotomy (size n f) (size m e) with hlt | heq | hgt
    · have hpred := size_le_pred hm hn hlt
      exact abs_sub_le_below hlt (by linarith)
    · rw [heq]
    · have hsucc := size_succ_le hm hn hgt
      exact abs_sub_le_above hgt (by linarith)
  · by_contra heven
    have hmid := two_mul_eq_of_abs_sub_eq hne htie
    rcases hne.lt_or_gt with hlt | hgt
    · have hpred := size_le_pred hm hn hlt
      exact (hodd heven).1 (le_antisymm hlower (by linarith))
    · have hsucc := size_succ_le hm hn hgt
      exact (hodd heven).2 (le_antisymm hupper (by linarith))

/-! ### Words -/

variable {x y : Float} {d : Decimal.Dyadic}

lemma normal_of_ofFloat? (h : Decimal.Dyadic.ofFloat? x = some d) :
    Normal d.mantissa d.exponent ∧ d.exponent ≤ 971 := by
  have hmod : x.toBits.toNat % Decimal.hidden < Decimal.hidden := Nat.mod_lt _ (by decide)
  have hfield : x.toBits.toNat / Decimal.hidden % 2048 < 2048 := Nat.mod_lt _ (by decide)
  unfold Decimal.Dyadic.ofFloat? at h
  dsimp only at h
  split_ifs at h with hspecial hsmall
  all_goals
    obtain rfl := Option.some.inj h
    dsimp only
  · exact ⟨⟨⟨by omega, le_rfl⟩, .inr rfl⟩, by omega⟩
  · exact ⟨⟨⟨by omega, by omega⟩, .inl (Nat.le_add_right _ _)⟩, by omega⟩

/-- A word is made up of its sign, its exponent field and its fraction. -/
lemma ofFloat?_inj (hx : Decimal.Dyadic.ofFloat? x = some d)
    (hy : Decimal.Dyadic.ofFloat? y = some d) : x = y := by
  have hbits : x.toBits.toNat = y.toBits.toNat := by
    have hltx := x.toBits.toNat_lt
    have hlty := y.toBits.toNat_lt
    unfold Decimal.Dyadic.ofFloat? Decimal.halfWords64 Decimal.hidden at hx hy
    dsimp only at hx hy
    split_ifs at hx hy with hspecial hsmall hspecial' hsmall'
    all_goals
      have heq := (Option.some.inj hx).trans (Option.some.inj hy).symm
      rw [Decimal.Dyadic.mk.injEq, Bool.eq_iff_iff, beq_iff_eq, beq_iff_eq] at heq
      omega
  rw [← Float.ofBits_toBits x, ← Float.ofBits_toBits y, UInt64.toNat_inj.1 hbits]

/-- A finite number with the given sign, whose size is the nearest to `q`. -/
def IsNearest (negative : Bool) (q : ℚ) (x : Float) : Prop :=
  ∃ m e, Decimal.Dyadic.ofFloat? x = some ⟨negative, m, e⟩ ∧ Nearest q m e

lemma IsNearest.unique {negative : Bool} (hx : IsNearest negative q x)
    (hy : IsNearest negative q y) : x = y := by
  obtain ⟨m, e, hx, hm⟩ := hx
  obtain ⟨n, f, hy, hn⟩ := hy
  obtain ⟨rfl, rfl⟩ := hm.unique hn
  exact ofFloat?_inj hx hy

lemma isNearest_zero (h : Decimal.Dyadic.ofFloat? x = some d) (hzero : d.mantissa = 0) :
    IsNearest d.negative 0 x := by
  have hleast : d.exponent = -1074 :=
    (normal_of_ofFloat? h).1.full.resolve_left (by rw [hzero]; decide)
  refine ⟨_, _, h, ?_⟩
  rw [hzero, hleast]
  exact nearest_zero

end QueryGuard.Proofs.NearestNumber
