/-!
JSON values. An object is a list of fields in the order in which they are written; `put` and
`ofFields` keep the names in increasing order, each once.
-/

namespace QueryGuard

inductive Json where
  | null
  | bool (b : Bool)
  /-- A whole number from `-2 ^ 63` up to, not including, `2 ^ 64`. -/
  | int (n : Int)
  | float (x : Float)
  | str (s : String)
  | arr (items : List Json)
  | obj (fields : List (String × Json))

namespace Json

instance : Inhabited Json := ⟨.null⟩

instance : Coe String Json := ⟨.str⟩
instance : Coe Bool Json := ⟨.bool⟩
instance : Coe Float Json := ⟨.float⟩

/-- Sets a field among fields in increasing order of their names. -/
def put (name : String) (value : Json) : List (String × Json) → List (String × Json)
  | [] => [(name, value)]
  | (n, v) :: rest =>
    if name < n then (name, value) :: (n, v) :: rest
    else if name = n then (name, value) :: rest
    else (n, v) :: put name value rest

/-- Of fields with one name the last counts. -/
def ofFields (fields : List (String × Json)) : List (String × Json) :=
  fields.foldl (fun out f => put f.1 f.2 out) []

/-- The field of an object. -/
def field? (name : String) : Json → Option Json
  | obj fields => fields.lookup name
  | _ => none

def str? : Json → Option String
  | str s => some s
  | _ => none

def arr? : Json → Option (List Json)
  | arr items => some items
  | _ => none

def bool? : Json → Option Bool
  | bool b => some b
  | _ => none

def nat? : Json → Option Nat
  | int (.ofNat n) => some n
  | _ => none

/-- Every number is a floating-point number, the nearest one. -/
def float? : Json → Option Float
  | int n => some (Float.ofInt n)
  | float x => some x
  | _ => none

def ofOption {α : Type} (write : α → Json) : Option α → Json
  | none => null
  | some a => write a

def strings (xs : List String) : Json := arr (xs.map str)

end Json

end QueryGuard
