import QueryGuard.Text.Blank

/-!
Fences around a draft. A drafter may put its SQL between lines of three backquotes, the first
with the name of the language.
-/

namespace QueryGuard.Fence

open Text

def mark : List Char := List.replicate 3 (Char.ofNat 0x60)

/-- Drops `head` as often as it stands in front; it is not empty. Every drop shortens the text,
so its length bounds their number. -/
def dropRepeated (head : List Char) : Nat → List Char → List Char
  | 0, s => s
  | n + 1, s =>
    match head.isPrefixOf? s with
    | none => s
    | some rest => dropRepeated head n rest

def dropHeads (head s : List Char) : List Char := dropRepeated head s.length s

def dropTails (tail s : List Char) : List Char := (dropHeads tail.reverse s.reverse).reverse

/-- The text without blanks and fences around it. -/
def strip (text : String) : String :=
  let s := dropHeads (mark ++ "sql".toList) (trim text.toList)
  String.ofList (trim (dropTails mark (dropHeads mark s)))

end QueryGuard.Fence
