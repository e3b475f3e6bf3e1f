/-!
Tables of simple case mappings. Letters of one alphabet map by a constant shift, and in many
blocks upper and lower case alternate, so a table is a list of runs with a stride.
-/

namespace QueryGuard.Text

/-- The code points `first`, `first + stride`, … up to `last`; `first` maps to `image` and the
others by the same shift. -/
structure CaseRun where
  first : Nat
  last : Nat
  stride : Nat
  image : Nat

namespace CaseRun

def covers (r : CaseRun) (n : Nat) : Bool :=
  decide (r.first ≤ n) && decide (n ≤ r.last) && (n - r.first) % r.stride == 0

def map (r : CaseRun) (n : Nat) : Nat := r.image + (n - r.first)

end CaseRun

/-- The image of a code point under runs in increasing order of `first`. -/
def mapCase (n : Nat) : List CaseRun → Option Nat
  | [] => none
  | r :: rest => if n < r.first then none else if r.covers n then some (r.map n) else mapCase n rest

end QueryGuard.Text
