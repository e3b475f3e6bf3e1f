import Mathlib
import QueryGuard.Json.Printer
import QueryGuard.Json.Reader

/-!
Numbers as they are written.

A numeral is a sign, whole digits, and perhaps a fraction and an exponent. What it amounts to is an
exact fraction. A numeral that is spelled out is read back part by part, up to the first sign behind
it that a number cannot go on with.
-/

namespace QueryGuard.Proofs.Numerals

open Json

/-- The parts of a number. -/
structure Numeral where
  negative : Bool
  whole : List Nat
  fraction : Option (List Nat)
  exponent : Option Int

/-- The number at the head of a text. -/
def numeral? (s : List Char) : Option (Numeral × List Char) := do
  let (negative, s) := match s with
    | '-' :: t => (true, t)
    | t => (false, t)
  let (whole, s) ← whole? s
  let (fraction, s) ← fraction? s
  let (exponent, s) ← exponent? s
  return (⟨negative, whole, fraction, exponent⟩, s)

namespace Numeral

/-- What the numeral amounts to, apart from its sign. -/
def amount (n : Numeral) : ℚ :=
  natOfDigits (n.whole ++ n.fraction.getD []) *
    10 ^ (n.exponent.getD 0 - (n.fraction.getD []).length)

/-- A whole number of 64 bits. Minus zero is none. -/
def whole? (n : Numeral) : Option Int :=
  let isWhole := n.fraction.isNone && n.exponent.isNone
  let k := natOfDigits n.whole
  if isWhole && !n.negative && decide (k < Decimal.words64) then some k
  else if isWhole && n.negative && k != 0 && decide (k ≤ Decimal.halfWords64) then some (-k)
  else none

section Whole

variable {n : Numeral}

lemma whole?_of_nonneg (hf : n.fraction = none) (he : n.exponent = none)
    (hneg : n.negative = false) (hlt : natOfDigits n.whole < Decimal.words64) :
    n.whole? = some (natOfDigits n.whole : Int) := by
  simp [whole?, hf, he, hneg, hlt]

lemma whole?_of_neg (hf : n.fraction = none) (he : n.exponent = none) (hneg : n.negative = true)
    (hne : natOfDigits n.whole ≠ 0) (hle : natOfDigits n.whole ≤ Decimal.halfWords64) :
    n.whole? = some (-(natOfDigits n.whole : Int)) := by
  simp [whole?, hf, he, hneg, hne, hle]

lemma whole?_of_broken (h : n.fraction.isSome ∨ n.exponent.isSome) : n.whole? = none := by
  have hbroken : (n.fraction.isNone && n.exponent.isNone) = false := by
    rw [Bool.and_eq_false_iff, Option.isNone_eq_false_iff, Option.isNone_eq_false_iff]
    exact h
  simp [whole?, hbroken]

end Whole

/-- A number as the reader gathers it from the digits. -/
def gathered? (n : Numeral) : Option Json :=
  match n.whole? with
  | some k => some (.int k)
  | none => (Decimal.ofDigits n.whole (n.fraction.getD []) (n.exponent.getD 0)).map fun x =>
      .float (if n.negative then -x else x)

end Numeral

lemma Numeral.map_gathered? (n : Numeral) (r : List Char) :
    n.gathered?.map (·, r) =
      let isWhole := n.fraction.isNone && n.exponent.isNone
      let k := natOfDigits n.whole
      if isWhole && !n.negative && decide (k < Decimal.words64) then some (.int k, r)
      else if isWhole && n.negative && k != 0 && decide (k ≤ Decimal.halfWords64) then
        some (.int (-k), r)
      else (Decimal.ofDigits n.whole (n.fraction.getD []) (n.exponent.getD 0)).bind fun x =>
        some (.float (if n.negative then -x else x), r) := by
  unfold Numeral.gathered? Numeral.whole?
  dsimp only
  cases n.negative
  all_goals
    split_ifs
    all_goals first | rfl | (rw [Option.map_map, Option.map_eq_bind]; rfl)

/-- The reader reads a numeral and gathers its digits. -/
lemma number?_eq (s : List Char) :
    number? s = (numeral? s).bind fun (n, r) => n.gathered?.map (·, r) := by
  simp only [number?, numeral?, Option.bind_eq_bind, Option.bind_assoc]
  apply Option.bind_congr
  rintro ⟨whole, s⟩ -
  apply Option.bind_congr
  rintro ⟨fraction, s⟩ -
  apply Option.bind_congr
  rintro ⟨exponent, s⟩ -
  exact (Numeral.map_gathered? ⟨_, whole, fraction, exponent⟩ s).symm

/-! ### Digits -/

/-- Digits only. -/
def Digits (s : List Char) : Prop := ∀ c ∈ s, c.isDigit = true

/-- What the digits are worth. -/
def worth (s : List Char) : List Nat := s.map fun c => c.toNat - '0'.toNat

lemma natOfDigits_worth (s : List Char) : natOfDigits (worth s) = Nat.ofDigitChars 10 s 0 := by
  rw [natOfDigits, worth, List.foldl_map, Nat.ofDigitChars]

lemma natOfDigits_append (ds es : List Nat) :
    natOfDigits (ds ++ es) = natOfDigits ds * 10 ^ es.length + natOfDigits es := by
  induction es using List.reverseRecOn with
  | nil => simp [natOfDigits]
  | append_singleton es e ih =>
    have hlast : ∀ fs : List Nat, natOfDigits (fs ++ [e]) = 10 * natOfDigits fs + e := fun fs => by
      rw [natOfDigits, List.foldl_append, natOfDigits, List.foldl_cons, List.foldl_nil]
    rw [← List.append_assoc, hlast, hlast, ih, List.length_append, List.length_singleton, pow_succ]
    ring

lemma natOfDigits_replicate_zero (k : ℕ) : natOfDigits (List.replicate k 0) = 0 := by
  induction k with
  | zero => rfl
  | succ k ih => rw [List.replicate_succ', natOfDigits_append, ih, zero_mul, zero_add]; rfl

lemma digits_digitChars (n : ℕ) : Digits (Decimal.digitChars n) :=
  fun _ hc => Nat.isDigit_of_mem_toDigits (by omega) (by omega) hc

lemma digitChars_ne_nil (n : ℕ) : Decimal.digitChars n ≠ [] := Nat.toDigits_ne_nil

lemma natOfDigits_digitChars (n : ℕ) : natOfDigits (worth (Decimal.digitChars n)) = n := by
  rw [natOfDigits_worth, Decimal.digitChars, Nat.ofDigitChars_ten_toDigits]

lemma worth_append (s t : List Char) : worth (s ++ t) = worth s ++ worth t := List.map_append

lemma length_worth (s : List Char) : (worth s).length = s.length := List.length_map _

lemma digits_replicate_zero (k : ℕ) : Digits (List.replicate k '0') := by
  intro c hc
  rw [List.eq_of_mem_replicate hc]
  decide

lemma natOfDigits_worth_zeros (k : ℕ) : natOfDigits (worth (List.replicate k '0')) = 0 := by
  rw [worth, List.map_replicate]
  exact natOfDigits_replicate_zero k

lemma Digits.append {s t : List Char} (hs : Digits s) (ht : Digits t) : Digits (s ++ t) :=
  List.forall_mem_append.2 ⟨hs, ht⟩

lemma Digits.of_subset {s t : List Char} (ht : Digits t) (h : s ⊆ t) : Digits s :=
  fun c hc => ht c (h hc)

/-- The first digit of a number is no zero. -/
lemma head?_digitChars {n : ℕ} (hn : n ≠ 0) : (Decimal.digitChars n).head? ≠ some '0' := by
  have hdigit : ∀ k < 10, k ≠ 0 → Nat.digitChar k ≠ '0' := by decide
  unfold Decimal.digitChars
  induction n using Nat.strong_induction_on with
  | h n ih =>
    rcases Nat.lt_or_ge n 10 with hlt | hge
    · rw [Nat.toDigits_of_lt_base hlt]
      exact fun h => hdigit n hlt hn (Option.some.inj h)
    · rw [Nat.toDigits_of_base_le (by omega) hge, List.head?_append_of_ne_nil _ Nat.toDigits_ne_nil]
      exact ih (n / 10) (by omega) (by omega)

section Reading

variable {s r : List Char}

lemma digits_append (hs : Digits s) (hr : ∀ c ∈ r.head?, c.isDigit = false) :
    Json.digits (s ++ r) = (worth s, r) := by
  have hstop : r.takeWhile Char.isDigit = [] ∧ r.dropWhile Char.isDigit = r := by
    cases r with
    | nil => exact ⟨rfl, rfl⟩
    | cons c r =>
      have hc : ¬c.isDigit = true := by simp [hr c rfl]
      exact ⟨List.takeWhile_cons_of_neg hc, List.dropWhile_cons_of_neg hc⟩
  rw [Json.digits, List.takeWhile_append_of_pos hs, List.dropWhile_append_of_pos hs, hstop.1,
    hstop.2, List.append_nil, worth]

lemma worth_ne_nil (hs : s ≠ []) : worth s ≠ [] := fun h => hs (List.map_eq_nil_iff.1 h)

lemma digits?_append (hs : Digits s) (hne : s ≠ []) (hr : ∀ c ∈ r.head?, c.isDigit = false) :
    digits? (s ++ r) = some (worth s, r) := by
  rw [digits?, digits_append hs hr]
  split
  · rename_i h
    exact absurd (Prod.mk.inj h).1 (worth_ne_nil hne)
  · rfl

lemma whole?_append (hs : Digits s) (hne : s ≠ []) (hlead : s = ['0'] ∨ s.head? ≠ some '0')
    (hr : ∀ c ∈ r.head?, c.isDigit = false) : Json.whole? (s ++ r) = some (worth s, r) := by
  rw [Json.whole?, digits?_append hs hne hr]
  split
  · rename_i d ds u h
    have hworth : worth s = 0 :: d :: ds := (Prod.mk.inj (Option.some.inj h)).1
    cases s with
    | nil => exact absurd rfl hne
    | cons c cs =>
      rcases hlead with hzero | hhead
      · rw [hzero] at hworth
        cases hworth
      · have hc := Char.isDigit_iff_toNat.1 (hs c List.mem_cons_self)
        have hvalue : c.toNat - 48 = 0 := (List.cons.inj hworth).1
        have hnat : c.toNat = ('0').toNat := Nat.le_antisymm (Nat.sub_eq_zero_iff_le.1 hvalue) hc.1
        exact absurd (congrArg some (Char.toNat_inj.1 hnat)) hhead
  · rfl

end Reading

/-! ### Spellings -/

/-- The signs a number is written with, apart from its own sign. -/
structure Spelling where
  whole : List Char
  fraction : Option (List Char)
  exponent : Option Int

namespace Spelling

def fractionText (p : Spelling) : List Char :=
  match p.fraction with
  | none => []
  | some f => '.' :: f

def exponentText (p : Spelling) : List Char :=
  match p.exponent with
  | none => []
  | some e => 'e' :: (if 0 ≤ e then '+' else '-') :: Decimal.digitChars e.natAbs

def text (p : Spelling) : List Char := p.whole ++ (p.fractionText ++ p.exponentText)

def numeral (p : Spelling) (negative : Bool) : Numeral :=
  ⟨negative, worth p.whole, p.fraction.map worth, p.exponent⟩

/-- The number that a spelling stands for, apart from its sign. -/
def amount (p : Spelling) : ℚ := (p.numeral false).amount

/-- The point may be moved behind all digits. -/
lemma amount_eq (p : Spelling) :
    p.amount = natOfDigits (worth (p.whole ++ p.fraction.getD [])) *
      10 ^ (p.exponent.getD 0 - (p.fraction.getD []).length) := by
  rw [amount, Numeral.amount, numeral, worth_append]
  cases p.fraction with
  | none => rfl
  | some f => rw [Option.map_some, Option.getD_some, Option.getD_some, length_worth]

/-- Digits stand where digits are read, and no zero stands before another whole digit. -/
structure Proper (p : Spelling) : Prop where
  digits : Digits p.whole
  nonempty : p.whole ≠ []
  leading : p.whole = ['0'] ∨ p.whole.head? ≠ some '0'
  fraction : ∀ f ∈ p.fraction, Digits f ∧ f ≠ []

end Spelling

/-- A number cannot go on with what follows. -/
def Ends (r : List Char) : Prop :=
  ∀ c ∈ r.head?, c.isDigit = false ∧ c ≠ '.' ∧ c ≠ 'e' ∧ c ≠ 'E'

section Spelling

variable {p : Spelling} {r : List Char}

lemma exponent?_exponentText (p : Spelling) (hr : Ends r) :
    exponent? (p.exponentText ++ r) = some (p.exponent, r) := by
  unfold Spelling.exponentText
  cases p.exponent with
  | none =>
    cases r with
    | nil => rfl
    | cons c r =>
      obtain ⟨-, -, he, hE⟩ := hr c rfl
      simp [exponent?, he, hE]
  | some e =>
    have hdigits := digits?_append (digits_digitChars e.natAbs) (digitChars_ne_nil _)
      fun c hc => (hr c hc).1
    dsimp only
    split_ifs with h
    · simp [exponent?, hdigits, natOfDigits_digitChars, abs_of_nonneg h]
    · simp [exponent?, hdigits, natOfDigits_digitChars, abs_of_neg (not_le.1 h)]

lemma head?_exponentText (p : Spelling) (hr : Ends r) :
    ∀ c ∈ (p.exponentText ++ r).head?, c.isDigit = false ∧ c ≠ '.' := by
  unfold Spelling.exponentText
  cases p.exponent with
  | none => exact fun c hc => ⟨(hr c hc).1, (hr c hc).2.1⟩
  | some e =>
    rintro c hc
    obtain rfl := Option.some.inj hc
    decide

lemma fraction?_fractionText (hp : p.Proper) (hr : Ends r) :
    fraction? (p.fractionText ++ (p.exponentText ++ r)) =
      some (p.fraction.map worth, p.exponentText ++ r) := by
  have hnext := head?_exponentText p hr
  unfold Spelling.fractionText
  cases hf : p.fraction with
  | none =>
    generalize p.exponentText ++ r = u at hnext ⊢
    rw [List.nil_append, fraction?]
    · rfl
    · rintro s rfl
      exact (hnext '.' rfl).2 rfl
  | some f =>
    obtain ⟨hdigits, hne⟩ := hp.fraction f (by rw [hf]; rfl)
    simp [fraction?, digits?_append hdigits hne fun c hc => (hnext c hc).1]

lemma head?_fractionText (p : Spelling) (hr : Ends r) :
    ∀ c ∈ (p.fractionText ++ (p.exponentText ++ r)).head?, c.isDigit = false := by
  unfold Spelling.fractionText
  cases p.fraction with
  | none => exact fun c hc => (head?_exponentText p hr c hc).1
  | some f =>
    rintro c hc
    obtain rfl := Option.some.inj hc
    decide

/-- The sign of a number. -/
def sign (negative : Bool) : List Char := if negative then ['-'] else []

/-- **Numbers are read back**, part by part. -/
theorem numeral?_text (hp : p.Proper) (negative : Bool) (hr : Ends r) :
    numeral? (sign negative ++ (p.text ++ r)) = some (p.numeral negative, r) := by
  have hwhole := whole?_append hp.digits hp.nonempty hp.leading (head?_fractionText p hr)
  have hfraction := fraction?_fractionText hp hr
  have hexponent := exponent?_exponentText p hr
  have htext : p.text ++ r = p.whole ++ (p.fractionText ++ (p.exponentText ++ r)) := by
    rw [Spelling.text, List.append_assoc, List.append_assoc]
  have hsign : (match sign negative ++ (p.text ++ r) with
      | '-' :: t => (true, t)
      | t => (false, t)) = (negative, p.text ++ r) := by
    cases negative with
    | true => rfl
    | false =>
      obtain ⟨c, cs, hcs⟩ := List.exists_cons_of_ne_nil hp.nonempty
      have hc : c ≠ '-' := fun h => absurd (hp.digits c (hcs ▸ List.mem_cons_self)) (h ▸ by decide)
      rw [htext, hcs]
      simp [sign, hc]
  unfold numeral?
  rw [hsign]
  simp [htext, hwhole, hfraction, hexponent, Spelling.numeral]

end Spelling

end QueryGuard.Proofs.Numerals
