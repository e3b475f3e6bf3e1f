import QueryGuard.Decimal.Word
import QueryGuard.Text.Search
import QueryGuard.Text.DecimalDigit

/-!
What a SQL text seems to say, read off its keywords without parsing it. Literals and quoted names
are not told apart from the rest, and letters count as they stand: the keywords are in lower
case, so callers bring the text to lower case first.
-/

namespace QueryGuard.Clause

open Text

def isNameChar (c : Char) : Bool := c.isLower || c.isDigit || c == '_'

def isDottedChar (c : Char) : Bool := isNameChar c || c == '.'

/-- What follows a keyword and the blanks after it. -/
def after? (keyword : String) (s : List Char) : Option (List Char) :=
  (keyword.toList.isPrefixOf? s).bind blanks?

/-- What follows two keywords with blanks between them. -/
def pair? (first second : String) (s : List Char) : Option (List Char) :=
  (after? first s).bind (second.toList.isPrefixOf? ·)

/-- A name, with its dots, after a keyword. -/
def named? (keyword : String) (s : List Char) : Option (List Char × List Char) :=
  (after? keyword s).bind (run? isDottedChar)

def namesAfter (keyword : String) (s : List Char) : List (List Char) := readAll (named? keyword) s

/-- The part of a name behind its last dot. -/
def lastSegment (name : List Char) : List Char := ((splitWhere (· == '.') name).getLast?).getD []

/-- The tables after FROM, then those after JOIN, each once and without its qualifier. -/
def tables (text : String) : List String :=
  let names := namesAfter "from" text.toList ++ namesAfter "join" text.toList
  (names.map fun n => String.ofList (lastSegment n)).eraseDups

/-- The tables after JOIN as they are written. -/
def joins (text : String) : List String := (namesAfter "join" text.toList).map String.ofList

/-! A clause begins after its keyword and the blanks behind it, and ends where a later clause
begins, or with the text. -/

def groupBy? (s : List Char) : Option (List Char) := pair? "group" "by" s

def orderBy? (s : List Char) : Option (List Char) := pair? "order" "by" s

def limit? (inWord : Bool) (s : List Char) : Option (List Char) :=
  standsAlone? "limit".toList inWord s

def endsWhere (inWord : Bool) (s : List Char) : Bool :=
  (groupBy? s).isSome || (orderBy? s).isSome || (limit? inWord s).isSome

def endsGroup (inWord : Bool) (s : List Char) : Bool :=
  (orderBy? s).isSome || (limit? inWord s).isSome

def endsOrder (inWord : Bool) (s : List Char) : Bool := (limit? inWord s).isSome

/-- The clause that `start?` opens first in the text; a blank precedes its body. -/
def body? (start? : List Char → Option (List Char)) (stop : Bool → List Char → Bool)
    (s : List Char) : Option (List Char) :=
  (firstMatch? start? s).map (upTo stop false)

/-- The condition after WHERE, if there is any. -/
def filters (text : String) : List String :=
  match body? (after? "where") endsWhere text.toList with
  | none => []
  | some clause => [trim clause].filter (· ≠ []) |>.map String.ofList

/-- The items between the commas of a clause. -/
def items (clause : List Char) : List String :=
  ((splitWhere (· == ',') clause).map trim).filter (· ≠ []) |>.map String.ofList

def groupBy (text : String) : List String :=
  ((body? (fun s => (groupBy? s).bind blanks?) endsGroup text.toList).map items).getD []

def orderBy (text : String) : List String :=
  ((body? (fun s => (orderBy? s).bind blanks?) endsOrder text.toList).map items).getD []

/-- The number after the first LIMIT that digits follow, if 64 bits hold it. -/
def limit (text : String) : Option Nat := do
  let counts := (standing "limit".toList false text.toList).findSome? fun r =>
    (blanks? r).bind (run? isDecimalDigit)
  let n ← natOfDigits? (← counts).1
  if n < Decimal.words64 then some n else none

def aggregateNames : List String := ["count", "sum", "avg", "min", "max"]

/-- The aggregate functions whose name stands in front of an opening parenthesis. -/
def aggregations (text : String) : List String :=
  aggregateNames.filter fun f => contains (f.toList ++ ['(']) text.toList

end QueryGuard.Clause
