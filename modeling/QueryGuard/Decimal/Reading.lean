import QueryGuard.Decimal.Word

/-!
Numbers from decimal digits. The digits are gathered in 64 bits; those that no longer fit only
scale the number. A fraction is then one multiplication or division by a power of ten, so that
numbers of up to fifteen digits and a small exponent are exact and longer ones are near.
-/

namespace QueryGuard.Decimal

/-- Adds digits to `n` as long as 64 bits hold it; gives the digits that did not fit. -/
def gather (n : Nat) : List Nat → Nat × List Nat
  | [] => (n, [])
  | d :: ds => if 10 * n + d < words64 then gather (10 * n + d) ds else (n, d :: ds)

def powerOfTen (k : Nat) : Float := Float.ofScientific 1 false k

/-- `x · 10 ^ e`, unless that is too large. Below `10 ^ -308` the scaling takes several steps. -/
def scaleTen : Nat → Float → Int → Option Float
  | steps, x, e =>
    if e.natAbs ≤ 308 then
      if 0 ≤ e then
        let y := x * powerOfTen e.natAbs
        if y.isInf then none else some y
      else some (x / powerOfTen e.natAbs)
    else if x == 0.0 then some x
    else if 0 ≤ e then none
    else match steps with
      | 0 => some 0.0
      | steps + 1 => scaleTen steps (x / powerOfTen 308) (e + 308)

/-- The number with the given whole digits, fraction digits and exponent. Any 64-bit word is
zero after two steps of scaling by `10 ^ -308`. -/
def ofDigits (whole fraction : List Nat) (exponent : Int) : Option Float :=
  let (n, unread) := gather 0 whole
  let (m, dropped) := gather n fraction
  let e := exponent + unread.length - (fraction.length - dropped.length : Nat)
  scaleTen 4 (Float.ofNat m) e

end QueryGuard.Decimal
