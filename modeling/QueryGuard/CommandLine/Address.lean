import QueryGuard.Database

/-!
Addresses of databases. The scheme of the address says which driver is asked.
-/

namespace QueryGuard.Address

def isSchemeChar (c : Char) : Bool := c.isAlphanum || c == '+' || c == '-' || c == '.'

/-- Control characters and spaces around an address do not count. -/
def isEdge (c : Char) : Bool := decide (c.toNat ≤ 0x20)

/-- The scheme, in lower case: a letter, then letters, digits and a few signs, then a colon. -/
def scheme? (address : String) : Option String :=
  let s := address.toList.dropWhile isEdge
  match s.takeWhile isSchemeChar, s.dropWhile isSchemeChar with
  | c :: cs, ':' :: _ =>
    if c.isAlpha then some (String.ofList ((c :: cs).map Char.toLower)) else none
  | _, _ => none

def drivenSchemes : List String := ["postgres", "postgresql", "sqlite", "mysql", "mariadb"]

/-- The database at an address, reached through `driver`. -/
def connect (driver : String → Except Failure Database) (address : String) :
    Except Failure Database :=
  match scheme? address with
  | none => .error (.database .notUrl)
  | some scheme =>
    if scheme ∈ drivenSchemes then
      (driver address).map fun db => { db with dialect := .ofUrl address }
    else .error (.database (.noDriver scheme))

end QueryGuard.Address
