import QueryGuard.Decimal.Shortest

/-!
How a floating-point number is written. `Layout.json` is the form used in every answer: a point
for magnitudes from 1e-5 up to, not including, 1e16, a power of ten with a sign outside.
-/

namespace QueryGuard.Decimal

/-- `low < point ≤ high` is written with a point, where `0.d₁d₂… · 10 ^ point` is the number. -/
structure Layout where
  low : Int
  high : Int
  /-- Written after a whole number. -/
  whole : String
  /-- Stands between the digits and an exponent that is not negative. -/
  raised : String
  notFinite : String

def Layout.json : Layout := ⟨-5, 16, ".0", "e+", "null"⟩

def digitChars (n : Nat) : List Char := Nat.toDigits 10 n

/-- Drops trailing zeros, moving them into the exponent. -/
def Scaled.trimmed : Nat → Scaled → Scaled
  | 0, s => s
  | steps + 1, s =>
    if s.digits ≠ 0 ∧ s.digits % 10 = 0 then trimmed steps ⟨s.digits / 10, s.exponent + 1⟩ else s

def Layout.magnitude (l : Layout) (s : Scaled) : List Char :=
  let digits := digitChars s.digits
  let point : Int := s.exponent + digits.length
  if l.low < point ∧ point ≤ l.high then
    if 0 ≤ s.exponent then
      digits ++ List.replicate s.exponent.toNat '0' ++ l.whole.toList
    else if 0 < point then
      digits.take point.toNat ++ '.' :: digits.drop point.toNat
    else
      '0' :: '.' :: List.replicate (-point).toNat '0' ++ digits
  else
    let head := match digits with
      | [] => []
      | [d] => [d]
      | d :: ds => d :: '.' :: ds
    let e := point - 1
    head ++ (if 0 ≤ e then l.raised.toList else "e-".toList) ++ digitChars e.natAbs

def Layout.write (l : Layout) (x : Float) : List Char :=
  match Dyadic.ofFloat? x with
  | none => l.notFinite.toList
  | some d =>
    let sign := if d.negative then ['-'] else []
    if d.mantissa = 0 then sign ++ '0' :: l.whole.toList
    else sign ++ l.magnitude ((shortest d.mantissa d.exponent).trimmed 20)

end QueryGuard.Decimal
