import QueryGuard.Decimal.Dyadic

/-!
The shortest decimal that reads back as a given number.

A decimal reads back when it lies between the midpoints to the two neighbouring numbers; the
midpoints themselves do so if the mantissa is even. Among the decimals that do, those on the
coarsest grid `10 ^ p` are the shortest, and of them the one nearest to the number is taken.
-/

namespace QueryGuard.Decimal

/-- The number `digits · 10 ^ exponent`. -/
structure Scaled where
  digits : Nat
  exponent : Int

/-- Bounds in units of `1 / den`: the number, the lower and the upper midpoint. -/
structure Window where
  num : Nat
  lower : Nat
  upper : Nat
  den : Nat
  closed : Bool

/-- The numbers that read back as `mantissa · 2 ^ exponent`. Below a power of two the next number
is half as far away. -/
def window (mantissa : Nat) (exponent : Int) : Window :=
  let below := if mantissa = hidden ∧ -1074 < exponent then 1 else 2
  let e := exponent - 2
  let up := Nat.pow 2 e.toNat
  ⟨4 * mantissa * up, (4 * mantissa - below) * up, (4 * mantissa + 2) * up, Nat.pow 2 (-e).toNat,
    mantissa % 2 == 0⟩

namespace Window

/-- The same bounds measured in units of `10 ^ p`. -/
def scale (w : Window) (p : Int) : Window :=
  let k := Nat.pow 10 (-p).toNat
  { w with num := w.num * k, lower := w.lower * k, upper := w.upper * k,
           den := w.den * Nat.pow 10 p.toNat }

def holds (w : Window) (n : Nat) : Bool :=
  let point := n * w.den
  if w.closed then decide (w.lower ≤ point) && decide (point ≤ w.upper)
  else decide (w.lower < point) && decide (point < w.upper)

/-- The whole number in the window nearest to its centre, an even one on a tie. -/
def nearest? (w : Window) : Option Nat :=
  let n := w.num / w.den
  match w.holds n, w.holds (n + 1) with
  | false, false => none
  | true, false => some n
  | false, true => some (n + 1)
  | true, true =>
    let twice := 2 * (w.num % w.den)
    if twice < w.den then some n
    else if w.den < twice then some (n + 1)
    else some (n + n % 2)

/-- Tries ever finer grids from `10 ^ p` on. -/
def search (w : Window) : Nat → Int → Scaled
  | 0, p => ⟨w.num, p⟩
  | steps + 1, p =>
    match (w.scale p).nearest? with
    | some n => ⟨n, p⟩
    | none => search w steps (p - 1)

end Window

/-- `mantissa` is not zero. No power of ten above the starting grid is as large as the number,
and seventeen digits always suffice. -/
def shortest (mantissa : Nat) (exponent : Int) : Scaled :=
  let magnitude : Int := (mantissa.log2 : Int) + exponent + 1
  (window mantissa exponent).search 24 (Int.fdiv (magnitude * 30103) 100000 + 1)

end QueryGuard.Decimal
