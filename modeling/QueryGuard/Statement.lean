import QueryGuard.RowBound
import QueryGuard.Text.LowerCase

/-!
A SQL text in the form in which it is examined: lower case, one space between its words. What is
asked of it are questions about words, not about SQL tokens, so a keyword inside a literal counts
as a keyword.
-/

namespace QueryGuard

open Text

structure Statement where
  text : String
deriving DecidableEq

namespace Statement

def ofSql (sql : String) : Statement := ⟨String.ofList (lower (collapse sql.toList))⟩

@[simp] theorem toList_text_ofSql (sql : String) :
    (ofSql sql).text.toList = lower (collapse sql.toList) := by
  simp [ofSql]

variable (s : Statement)

def isEmpty : Bool := s.text.toList.isEmpty

def startsWithAny (heads : List String) : Bool :=
  heads.any fun h => h.toList.isPrefixOf s.text.toList

def isRead : Bool := s.startsWithAny ["select", "with"]

def isWrite : Bool := s.startsWithAny ["insert", "update", "delete"]

/-- Whether `word` stands between spaces or at an end of the text. -/
def hasWord (word : String) : Bool :=
  contains (' ' :: (word.toList ++ [' '])) (' ' :: (s.text.toList ++ [' ']))

/-- Whether a semicolon stands before the last character. -/
def hasInnerSemicolon : Bool := s.text.toList.dropLast.contains ';'

def hasLimit : Bool := RowBound.hasLimit s.text

/-- Nothing keeps the statement from touching every row. -/
def isUnbounded : Bool := !s.hasWord "where" && !s.hasLimit

/-- How often `word` stands in the text with no word character beside it. -/
def countWord (word : String) : Nat := (standing word.toList false s.text.toList).length

end Statement

end QueryGuard
