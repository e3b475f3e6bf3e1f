import Mathlib
import QueryGuard.Decimal.Layout
import QueryGuard.Proofs.NearestNumber

/-!
The decimal that a floating-point number is written with.

The search for it goes from one grid of powers of ten to the next finer one, and ends on the first
that has a point between the midpoints to the neighbours of the number. On the last grid that is
tried the points are nearer to one another than the number is to its upper midpoint, so there is
such a point. The number is the nearest to the point that was taken, whichever it was.
-/

namespace QueryGuard.Proofs.ShortestDigits

open Decimal NearestNumber

variable {a m n : ℕ} {e p k : ℤ} {w : Window}

/-! ### Grids -/

/-- The number that digits and a power of ten stand for. -/
def amount (s : Scaled) : ℚ := s.digits * 10 ^ s.exponent

lemma zpow_mul_pow_toNat {b : ℚ} (hb : b ≠ 0) (p : ℤ) :
    b ^ p * b ^ (-p).toNat = b ^ p.toNat := by
  rw [← zpow_natCast, ← zpow_natCast, ← zpow_add₀ hb]
  congr 1
  omega

section Scaled

variable (a n : ℕ) (e p : ℤ)

/-- A binary and a decimal fraction are both so many of this unit, and are compared by how many. -/
def unit : ℚ := 2 ^ (-e).toNat * 10 ^ (-p).toNat

lemma unit_pos : 0 < unit e p := by
  unfold unit
  positivity

/-- The binary fraction in units. -/
def binaryUnits : ℕ := a * 2 ^ e.toNat * 10 ^ (-p).toNat

/-- The decimal fraction in units. -/
def decimalUnits : ℕ := n * (2 ^ (-e).toNat * 10 ^ p.toNat)

lemma binaryUnits_add (a b : ℕ) (e p : ℤ) :
    binaryUnits (a + b) e p = binaryUnits a e p + binaryUnits b e p := by
  rw [binaryUnits, binaryUnits, binaryUnits, add_mul, add_mul]

lemma cast_binaryUnits : (binaryUnits a e p : ℚ) = size a e * unit e p := by
  rw [binaryUnits, size, unit, Nat.cast_mul, Nat.cast_mul, Nat.cast_pow, Nat.cast_pow,
    Nat.cast_ofNat, Nat.cast_ofNat, ← zpow_mul_pow_toNat two_ne_zero e]
  ring

lemma cast_decimalUnits : (decimalUnits n e p : ℚ) = amount ⟨n, p⟩ * unit e p := by
  rw [decimalUnits, amount, unit, Nat.cast_mul, Nat.cast_mul, Nat.cast_pow, Nat.cast_pow,
    Nat.cast_ofNat, Nat.cast_ofNat, ← zpow_mul_pow_toNat (by norm_num : (10 : ℚ) ≠ 0) p]
  ring

variable {a n e p}

lemma binaryUnits_le_iff : binaryUnits a e p ≤ decimalUnits n e p ↔ size a e ≤ amount ⟨n, p⟩ := by
  rw [← Nat.cast_le (α := ℚ), cast_binaryUnits, cast_decimalUnits,
    mul_le_mul_iff_left₀ (unit_pos e p)]

lemma decimalUnits_le_iff : decimalUnits n e p ≤ binaryUnits a e p ↔ amount ⟨n, p⟩ ≤ size a e := by
  rw [← Nat.cast_le (α := ℚ), cast_binaryUnits, cast_decimalUnits,
    mul_le_mul_iff_left₀ (unit_pos e p)]

end Scaled

/-! ### Windows -/

lemma holds_iff : w.holds n = true ↔ w.lower ≤ n * w.den ∧ n * w.den ≤ w.upper ∧
    (w.closed = false → w.lower ≠ n * w.den ∧ n * w.den ≠ w.upper) := by
  unfold Window.holds
  cases w.closed
  · simp only [Bool.false_eq_true, ↓reduceIte, Bool.and_eq_true, decide_eq_true_eq, forall_const]
    omega
  · simp

lemma holds_of_nearest? (h : w.nearest? = some n) : w.holds n = true := by
  unfold Window.nearest? at h
  dsimp only at h
  split at h
  · cases h
  · rename_i hn _
    exact Option.some.inj h ▸ hn
  · rename_i _ hn
    exact Option.some.inj h ▸ hn
  · rename_i hn hnext
    split_ifs at h
    · exact Option.some.inj h ▸ hn
    · exact Option.some.inj h ▸ hnext
    · rcases Nat.mod_two_eq_zero_or_one (w.num / w.den) with heven | hodd
      · rw [heven] at h
        exact Option.some.inj h ▸ hn
      · rw [hodd] at h
        exact Option.some.inj h ▸ hnext

/-- The next point behind the number is not behind the upper midpoint. -/
lemma isSome_nearest? (hden : 0 < w.den) (hlower : w.lower ≤ w.num)
    (hupper : w.num + w.den < w.upper) : w.nearest?.isSome = true := by
  have hnext : w.holds (w.num / w.den + 1) = true := by
    have hfloor := Nat.div_mul_le_self w.num w.den
    have hceil := Nat.lt_div_mul_add hden (a := w.num)
    rw [holds_iff, Nat.succ_mul]
    omega
  unfold Window.nearest?
  dsimp only
  rw [hnext]
  cases w.holds (w.num / w.den)
  · rfl
  · dsimp only
    split_ifs <;> rfl

/-- The search ends on the first grid that has a point in the window. -/
lemma nearest?_search {steps : ℕ} (h : ∃ i < steps, (w.scale (p - i)).nearest?.isSome = true) :
    (w.scale (w.search steps p).exponent).nearest? = some (w.search steps p).digits := by
  induction steps generalizing p with
  | zero =>
    obtain ⟨i, hi, -⟩ := h
    exact absurd hi (Nat.not_lt_zero i)
  | succ steps ih =>
    rw [Window.search]
    cases hgrid : (w.scale p).nearest? with
    | some n => exact hgrid
    | none =>
      refine ih ?_
      obtain ⟨i, hi, hsome⟩ := h
      cases i with
      | zero =>
        rw [Nat.cast_zero, sub_zero, hgrid] at hsome
        cases hsome
      | succ i =>
        refine ⟨i, Nat.lt_of_succ_lt_succ hi, ?_⟩
        rwa [Nat.cast_succ, add_comm, ← sub_sub] at hsome

/-! ### The window of a number -/

lemma window_num (m : ℕ) (e p : ℤ) :
    ((window m e).scale p).num = binaryUnits (4 * m) (e - 2) p := rfl

lemma window_lower (m : ℕ) (e p : ℤ) :
    ((window m e).scale p).lower = binaryUnits (4 * m - below m e) (e - 2) p := rfl

lemma window_upper (m : ℕ) (e p : ℤ) :
    ((window m e).scale p).upper = binaryUnits (4 * m + 2) (e - 2) p := rfl

lemma mul_window_den (n m : ℕ) (e p : ℤ) :
    n * ((window m e).scale p).den = decimalUnits n (e - 2) p := rfl

lemma window_closed (m : ℕ) (e p : ℤ) :
    ((window m e).scale p).closed = (m % 2 == 0) := rfl

/-- What the window of a number holds lies between its midpoints. -/
lemma nearest_of_holds (hm : Normal m e) (hpos : 0 < m)
    (h : ((window m e).scale p).holds n = true) : Nearest (amount ⟨n, p⟩) m e := by
  rw [holds_iff, window_lower, window_upper, mul_window_den, window_closed, binaryUnits_le_iff,
    decimalUnits_le_iff] at h
  obtain ⟨hlower, hupper, hopen⟩ := h
  refine nearest_of_between hm hpos hlower hupper fun hodd => ?_
  have hends := hopen (beq_false_of_ne fun heven => hodd (Nat.even_iff.2 heven))
  refine ⟨fun heq => hends.1 ?_, fun heq => hends.2 ?_⟩
  · exact le_antisymm (binaryUnits_le_iff.2 heq.le) (decimalUnits_le_iff.2 heq.ge)
  · exact le_antisymm (decimalUnits_le_iff.2 heq.le) (binaryUnits_le_iff.2 heq.ge)

/-- Where the points are nearer to one another than the number is to the upper midpoint, the window
has a point. -/
lemma isSome_nearest?_window (h : amount ⟨1, p⟩ < size 2 (e - 2)) :
    ((window m e).scale p).nearest?.isSome = true := by
  have hden : ((window m e).scale p).den < binaryUnits 2 (e - 2) p := by
    rw [← one_mul ((window m e).scale p).den, mul_window_den, ← not_le, binaryUnits_le_iff, not_le]
    exact h
  refine isSome_nearest? ?_ ?_ ?_
  · exact Nat.mul_pos (Nat.pow_pos two_pos) (Nat.pow_pos (by omega))
  · rw [window_lower, window_num]
    exact Nat.mul_le_mul_right _ (Nat.mul_le_mul_right _ (Nat.sub_le _ _))
  · rw [window_upper, window_num, binaryUnits_add]
    exact Nat.add_lt_add_left hden _

lemma zpow_le_zpow_of_neg {b c : ℚ} (hp : p < 0) (hb : 0 < b) (hbc : b ≤ c) : c ^ p ≤ b ^ p := by
  rw [← inv_inv (c ^ p), ← inv_inv (b ^ p), ← zpow_neg c, ← zpow_neg b]
  exact inv_anti₀ (zpow_pos hb _) (zpow_le_zpow_left₀ (by omega) hb.le hbc)

/-- Three orders of ten are less than ten of two, and ten orders of ten more than thirty-three of
two. -/
lemma ten_zpow_lt (hlarge : 0 ≤ p → 10 * p < 3 * k) (hsmall : p < 0 → 33 * p < 10 * k) :
    (10 : ℚ) ^ p < 2 ^ k := by
  rcases le_or_gt 0 p with hp | hp
  · refine lt_of_pow_lt_pow_left₀ 3 (by positivity) ?_
    calc ((10 : ℚ) ^ p) ^ 3 = (10 ^ 3) ^ p := by rw [← zpow_natCast, zpow_comm, zpow_natCast]
      _ ≤ (2 ^ 10) ^ p := zpow_le_zpow_left₀ hp (by norm_num) (by norm_num)
      _ = 2 ^ (10 * p) := by rw [← zpow_natCast, ← zpow_mul, Nat.cast_ofNat]
      _ < 2 ^ (k * 3) := zpow_lt_zpow_right₀ one_lt_two (by have := hlarge hp; omega)
      _ = (2 ^ k) ^ 3 := by rw [zpow_mul, ← zpow_natCast, Nat.cast_ofNat]
  · refine lt_of_pow_lt_pow_left₀ 10 (by positivity) ?_
    calc ((10 : ℚ) ^ p) ^ 10 = (10 ^ 10) ^ p := by rw [← zpow_natCast, zpow_comm, zpow_natCast]
      _ ≤ (2 ^ 33) ^ p := zpow_le_zpow_of_neg hp (by norm_num) (by norm_num)
      _ = 2 ^ (33 * p) := by rw [← zpow_natCast, ← zpow_mul, Nat.cast_ofNat]
      _ < 2 ^ (k * 10) := zpow_lt_zpow_right₀ one_lt_two (by have := hsmall hp; omega)
      _ = (2 ^ k) ^ 10 := by rw [zpow_mul, ← zpow_natCast, Nat.cast_ofNat]

/-- Twenty-three grids below the first one the points are near enough to one another. -/
lemma last_grid_lt {digits : ℤ} (hdigits : digits < 53) (hnonneg : 0 ≤ digits) (hleast : -1074 ≤ e)
    (he : e ≤ 971) :
    amount ⟨1, Int.fdiv ((digits + e + 1) * 30103) 100000 + 1 - (23 : ℕ)⟩ < size 2 (e - 2) := by
  have htwo : size 2 (e - 2) = 2 ^ (e - 1) := by
    rw [size, show e - 1 = 1 + (e - 2) by omega, zpow_add₀ two_ne_zero, zpow_one, Nat.cast_ofNat]
  rw [htwo, amount, Nat.cast_one, one_mul, Int.fdiv_eq_ediv_of_nonneg _ (by omega)]
  refine ten_zpow_lt ?_ ?_ <;> dsimp only <;> omega

lemma nearest_search (hm : Normal m e) (hpos : 0 < m) {steps : ℕ}
    (h : ∃ i < steps, amount ⟨1, p - (i : ℕ)⟩ < size 2 (e - 2)) :
    Nearest (amount ((window m e).search steps p)) m e := by
  obtain ⟨i, hi, hfine⟩ := h
  exact nearest_of_holds hm hpos
    (holds_of_nearest? (nearest?_search ⟨i, hi, isSome_nearest?_window hfine⟩))

/-- **Read back.** A number is the nearest one to the decimal found for it. -/
theorem nearest_shortest (hm : Normal m e) (hpos : 0 < m) (he : e ≤ 971) :
    Nearest (amount (shortest m e)) m e := by
  have hlog : m.log2 < 53 := (Nat.log2_lt hpos.ne').2 hm.lt
  rw [shortest]
  exact nearest_search hm hpos ⟨23, by omega, last_grid_lt (by omega) (by omega) hm.le he⟩

/-! ### Trailing zeros -/

/-- Zeros that are moved into the exponent do not change the amount. -/
lemma amount_trimmed (steps : ℕ) (s : Scaled) : amount (s.trimmed steps) = amount s := by
  induction steps generalizing s with
  | zero => rfl
  | succ steps ih =>
    rw [Scaled.trimmed]
    split_ifs with h
    · have hdigits : s.digits = s.digits / 10 * 10 := by omega
      rw [ih, amount, amount, zpow_add_one₀ (by norm_num)]
      conv_rhs => rw [hdigits, Nat.cast_mul, Nat.cast_ofNat]
      ring
    · rfl

variable {x : Float} {d : Decimal.Dyadic}

/-- The digits of a number that is not zero. -/
def written (d : Decimal.Dyadic) : Scaled := (shortest d.mantissa d.exponent).trimmed 20

/-- **What is written.** A number is the nearest one to the decimal it is written with. -/
theorem isNearest_written (h : Decimal.Dyadic.ofFloat? x = some d) (hpos : 0 < d.mantissa) :
    IsNearest d.negative (amount (written d)) x := by
  obtain ⟨hnormal, hexponent⟩ := normal_of_ofFloat? h
  refine ⟨_, _, h, ?_⟩
  rw [written, amount_trimmed]
  exact nearest_shortest hnormal hpos hexponent

/-- No number but zero is the nearest to zero. -/
lemma digits_written_ne_zero (h : Decimal.Dyadic.ofFloat? x = some d) (hpos : 0 < d.mantissa) :
    (written d).digits ≠ 0 := by
  intro hzero
  obtain ⟨m, e, heq, hnear⟩ := isNearest_written h hpos
  rw [amount, hzero, Nat.cast_zero, zero_mul] at hnear
  rw [h, Option.some.injEq] at heq
  rw [heq, (hnear.unique nearest_zero).1] at hpos
  exact absurd hpos (Nat.lt_irrefl 0)

end QueryGuard.Proofs.ShortestDigits
