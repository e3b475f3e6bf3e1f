import QueryGuard.Decimal.Word

/-!
Finite floating-point numbers as exact binary fractions, and rounding to whole numbers through
them.
-/

namespace QueryGuard.Decimal

/-- The number `± mantissa · 2 ^ exponent`. -/
structure Dyadic where
  negative : Bool
  mantissa : Nat
  exponent : Int

/-- The bit in front of a fraction, which is not stored. -/
def hidden : Nat := 0x10000000000000

/-- Exponent field `0` holds the numbers below `2 ^ 52` units, field `2047` what is not finite. -/
def Dyadic.ofFloat? (x : Float) : Option Dyadic :=
  let bits := x.toBits.toNat
  let field := bits / hidden % 2048
  let fraction := bits % hidden
  let negative := bits / halfWords64 == 1
  if field = 2047 then none
  else if field = 0 then some ⟨negative, fraction, -1074⟩
  else some ⟨negative, hidden + fraction, (field : Int) - 1075⟩

/-- The whole number nearest to `mantissa / 2 ^ k`, a half upwards. -/
def nearestWhole (mantissa k : Nat) : Nat := (2 * mantissa + Nat.pow 2 k) / Nat.pow 2 (k + 1)

/-- The nearest whole number, a half away from zero. Numbers from `2 ^ 52` on are whole. -/
def roundHalfAway (x : Float) : Float :=
  match Dyadic.ofFloat? x with
  | none => x
  | some d =>
    if 0 ≤ d.exponent then x
    else
      let n := Float.ofNat (nearestWhole d.mantissa (-d.exponent).toNat)
      if d.negative then -n else n

/-- Two places, rounded where the hundredfold stands. -/
def round2 (x : Float) : Float := roundHalfAway (x * 100.0) / 100.0

end QueryGuard.Decimal
