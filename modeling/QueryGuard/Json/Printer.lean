import QueryGuard.Json.Basic
import QueryGuard.Decimal.Layout

/-!
JSON text. The compact form has no blanks; the indented form puts each item and each field on a
line of its own, two spaces deeper than its bracket, and leaves empty brackets closed up.

Quotes, backslashes and the control characters below U+0020 are escaped, nothing else.
-/

namespace QueryGuard.Json

def hexDigit (n : Nat) : Char := Nat.digitChar (n % 16)

def escape (c : Char) : List Char :=
  if c = '"' then ['\\', '"']
  else if c = '\\' then ['\\', '\\']
  else if 0x20 ≤ c.toNat then [c]
  else if c.toNat = 0x8 then ['\\', 'b']
  else if c.toNat = 0x9 then ['\\', 't']
  else if c.toNat = 0xA then ['\\', 'n']
  else if c.toNat = 0xC then ['\\', 'f']
  else if c.toNat = 0xD then ['\\', 'r']
  else ['\\', 'u', '0', '0', hexDigit (c.toNat / 16), hexDigit c.toNat]

def quote (s : String) : List Char := '"' :: (s.toList.flatMap escape ++ ['"'])

def integer (n : Int) : List Char :=
  if n < 0 then '-' :: Decimal.digitChars n.natAbs else Decimal.digitChars n.natAbs

mutual

def compact : Json → List Char
  | null => "null".toList
  | bool b => (if b then "true" else "false").toList
  | int n => integer n
  | float x => Decimal.Layout.json.write x
  | str s => quote s
  | arr [] => ['[', ']']
  | arr (v :: vs) => '[' :: (compact v ++ moreItems vs)
  | obj [] => ['{', '}']
  | obj ((n, v) :: fs) => '{' :: (quote n ++ ':' :: (compact v ++ moreFields fs))

def moreItems : List Json → List Char
  | [] => [']']
  | v :: vs => ',' :: (compact v ++ moreItems vs)

def moreFields : List (String × Json) → List Char
  | [] => ['}']
  | (n, v) :: fs => ',' :: (quote n ++ ':' :: (compact v ++ moreFields fs))

end

/-- A line break and the blanks that begin the next line. -/
def newLine (depth : Nat) : List Char := '\n' :: List.replicate (2 * depth) ' '

mutual

def indented (depth : Nat) : Json → List Char
  | null => "null".toList
  | bool b => (if b then "true" else "false").toList
  | int n => integer n
  | float x => Decimal.Layout.json.write x
  | str s => quote s
  | arr [] => ['[', ']']
  | arr (v :: vs) =>
    '[' :: (newLine (depth + 1) ++ indented (depth + 1) v ++ indentedItems depth vs)
  | obj [] => ['{', '}']
  | obj ((n, v) :: fs) =>
    '{' :: (newLine (depth + 1) ++ quote n ++ ':' :: ' ' :: (indented (depth + 1) v ++
      indentedFields depth fs))

def indentedItems (depth : Nat) : List Json → List Char
  | [] => newLine depth ++ [']']
  | v :: vs => ',' :: (newLine (depth + 1) ++ indented (depth + 1) v ++ indentedItems depth vs)

def indentedFields (depth : Nat) : List (String × Json) → List Char
  | [] => newLine depth ++ ['}']
  | (n, v) :: fs =>
    ',' :: (newLine (depth + 1) ++ quote n ++ ':' :: ' ' :: (indented (depth + 1) v ++
      indentedFields depth fs))

end

def render (j : Json) : String := String.ofList j.compact

def pretty (j : Json) : String := String.ofList (j.indented 0)

end QueryGuard.Json
