import QueryGuard.Decimal.Dyadic
import QueryGuard.Json.Basic

/-!
Records as values. In a value the fields of an object stand in increasing order of their names, each
once, whatever the order is in which a record declares them; and numbers that are not finite are
null.
-/

namespace QueryGuard.Json

def ofFloat (x : Float) : Json := if (Decimal.Dyadic.ofFloat? x).isSome then float x else null

mutual

def toValue : Json → Json
  | null => null
  | bool b => bool b
  | int n => int n
  | float x => ofFloat x
  | str s => str s
  | arr items => arr (toValues items)
  | obj fields => obj (ofFields (toValueFields fields))

def toValues : List Json → List Json
  | [] => []
  | v :: vs => toValue v :: toValues vs

def toValueFields : List (String × Json) → List (String × Json)
  | [] => []
  | (n, v) :: fs => (n, toValue v) :: toValueFields fs

end

end QueryGuard.Json
