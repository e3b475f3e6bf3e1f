import QueryGuard.Text.Blank
import QueryGuard.Text.WordChar

/-!
Search from left to right. A matcher reads at the head of a text and returns what it read with
the rest; the functions here try it place after place.
-/

namespace QueryGuard.Text

/-- Whether `w` occurs in `s`. -/
def contains (w : List Char) : List Char → Bool
  | [] => w.isEmpty
  | c :: s => w.isPrefixOf (c :: s) || contains w s

/-- What `m` gives at the first place where it matches. -/
def firstMatch? {α : Type} (m : List Char → Option α) : List Char → Option α
  | [] => none
  | c :: s => m (c :: s) <|> firstMatch? m s

/-- Reads with `m` from left to right. A reading starts no earlier than the last one ended:
`busy` counts the characters that still belong to it. -/
def readAllFrom {α : Type} (m : List Char → Option (α × List Char)) :
    Nat → List Char → List α
  | _, [] => []
  | busy + 1, _ :: s => readAllFrom m busy s
  | 0, c :: s =>
    match m (c :: s) with
    | some (a, rest) => a :: readAllFrom m (s.length - rest.length) s
    | none => readAllFrom m 0 s

def readAll {α : Type} (m : List Char → Option (α × List Char)) (s : List Char) : List α :=
  readAllFrom m 0 s

theorem readAllFrom_drop {α : Type} (m : List Char → Option (α × List Char)) (k : Nat)
    (s : List Char) : readAllFrom m k s = readAllFrom m 0 (s.drop k) := by
  induction s generalizing k with
  | nil => simp [readAllFrom]
  | cons c s ih =>
    cases k with
    | zero => simp
    | succ k => simp [readAllFrom, ih k]

/-- What follows each occurrence of `w`. Occurrences may overlap. -/
def remainders (w : List Char) : List Char → List (List Char)
  | [] => []
  | c :: s => (w.isPrefixOf? (c :: s)).toList ++ remainders w s

/-- Whether a word character stands at the head. -/
def startsInWord : List Char → Bool
  | [] => false
  | c :: _ => isWordChar c

/-- What follows `w` at the head, if the word ends there and, as `inWord` tells, none precedes.
`w` itself begins and ends with word characters. -/
def standsAlone? (w : List Char) (inWord : Bool) (s : List Char) : Option (List Char) :=
  if inWord then none
  else (w.isPrefixOf? s).bind fun rest => if startsInWord rest then none else some rest

/-- What follows each occurrence of `w` as a word of its own. -/
def standing (w : List Char) (inWord : Bool) : List Char → List (List Char)
  | [] => []
  | c :: s => (standsAlone? w inWord (c :: s)).toList ++ standing w (isWordChar c) s

/-- The text in front of the first place where `stop` holds. `stop` is told whether a word
character precedes. -/
def upTo (stop : Bool → List Char → Bool) (inWord : Bool) : List Char → List Char
  | [] => []
  | c :: s => if stop inWord (c :: s) then [] else c :: upTo stop (isWordChar c) s

/-- A run, not empty, of the characters that satisfy `p`. -/
def run? (p : Char → Bool) (s : List Char) : Option (List Char × List Char) :=
  match s.takeWhile p with
  | [] => none
  | w => some (w, s.dropWhile p)

@[simp] theorem readAll_nil {α : Type} (m : List Char → Option (α × List Char)) :
    readAll m [] = [] := rfl

theorem readAll_cons_of_none {α : Type} {m : List Char → Option (α × List Char)} {c : Char}
    {s : List Char} (h : m (c :: s) = none) : readAll m (c :: s) = readAll m s := by
  simp [readAll, readAllFrom, h]

theorem readAll_cons_of_some {α : Type} {m : List Char → Option (α × List Char)} {c : Char}
    {s : List Char} {a : α} {rest : List Char} (h : m (c :: s) = some (a, rest)) :
    readAll m (c :: s) = a :: readAll m (s.drop (s.length - rest.length)) := by
  simp [readAll, readAllFrom, h, readAllFrom_drop m (s.length - rest.length)]

@[simp] theorem standing_nil (w : List Char) (b : Bool) : standing w b [] = [] := rfl

@[simp] theorem upTo_nil (stop : Bool → List Char → Bool) (b : Bool) : upTo stop b [] = [] := rfl

end QueryGuard.Text
