import QueryGuard.Text.Ranges

/-!
Blank characters and what is done with them: trimming, and cutting a text into its blank-free
runs. The blanks are the characters with the property White_Space; zero-width characters are
not among them.
-/

namespace QueryGuard.Text

def blankRanges : List (Nat × Nat) := [
  (0x9, 0xD), (0x20, 0x20), (0x85, 0x85), (0xA0, 0xA0), (0x1680, 0x1680), (0x2000, 0x200A),
  (0x2028, 0x2029), (0x202F, 0x202F), (0x205F, 0x205F), (0x3000, 0x3000)]

def isBlank (c : Char) : Bool := inRanges c.toNat blankRanges

def dropBlanks (s : List Char) : List Char := s.dropWhile isBlank

/-- The rest after a run of blanks, which must not be empty. -/
def blanks? : List Char → Option (List Char)
  | [] => none
  | c :: s => if isBlank c then some (dropBlanks s) else none

def trimEnd (s : List Char) : List Char := (s.reverse.dropWhile isBlank).reverse

def trim (s : List Char) : List Char := trimEnd (dropBlanks s)

/-- The pieces of `s` between the characters that satisfy `p`, empty ones included. -/
def splitWhere (p : Char → Bool) : List Char → List (List Char)
  | [] => [[]]
  | c :: s =>
    if p c then [] :: splitWhere p s
    else match splitWhere p s with
      | [] => [[c]]
      | w :: ws => (c :: w) :: ws

/-- The blank-free runs of `s`. -/
def words (s : List Char) : List (List Char) := (splitWhere isBlank s).filter (· ≠ [])

/-- The words of `s` with one space between them. -/
def collapse (s : List Char) : List Char := [' '].intercalate (words s)

theorem splitWhere_ne_nil (p : Char → Bool) (s : List Char) : splitWhere p s ≠ [] := by
  cases s with
  | nil => simp [splitWhere]
  | cons c s =>
    simp only [splitWhere]
    split
    · simp
    · split <;> simp

theorem not_mem_splitWhere {p : Char → Bool} {s w : List Char} (h : w ∈ splitWhere p s) :
    ∀ c ∈ w, p c = false := by
  induction s generalizing w with
  | nil => simp_all [splitWhere]
  | cons a s ih =>
    simp only [splitWhere] at h
    split at h
    · rcases List.mem_cons.1 h with rfl | h
      · simp
      · exact ih h
    · rename_i ha
      split at h
      · rename_i hs
        exact absurd hs (splitWhere_ne_nil p s)
      · rename_i v vs hs
        rcases List.mem_cons.1 h with rfl | h
        · intro c hc
          rcases List.mem_cons.1 hc with rfl | hc
          · simpa using ha
          · exact ih (hs ▸ List.mem_cons_self ..) c hc
        · exact ih (hs ▸ List.mem_cons_of_mem _ h)

theorem ne_nil_of_mem_words {s w : List Char} (h : w ∈ words s) : w ≠ [] := by
  simpa using (List.mem_filter.1 h).2

theorem not_isBlank_of_mem_words {s w : List Char} (h : w ∈ words s) {c : Char} (hc : c ∈ w) :
    isBlank c = false :=
  not_mem_splitWhere (List.mem_filter.1 h).1 c hc

end QueryGuard.Text
