import QueryGuard.Statement

/-!
Which texts are accepted as a read and which as a write: a single statement of the right kind
without any of the blocked words.
-/

namespace QueryGuard

inductive Refusal where
  | empty
  | notRead
  | notWrite
  | severalStatements
  | blocked (word : String)
deriving DecidableEq

def Refusal.message : Refusal → String
  | empty => "SQL is empty."
  | notRead => "Only SELECT queries are allowed."
  | notWrite => "Only INSERT/UPDATE/DELETE are allowed."
  | severalStatements => "Multiple statements are not allowed."
  | blocked word => "Blocked keyword: " ++ word ++ "."

namespace Validation

def blockedInWrite : List String :=
  ["drop", "alter", "truncate", "create", "grant", "revoke", "copy"]

def blockedInRead : List String := ["insert", "update", "delete"] ++ blockedInWrite

/-- The first of the `blocked` words that stands in the statement refuses it. -/
def common (s : Statement) (blocked : List String) : Option Refusal :=
  if s.hasInnerSemicolon then some .severalStatements
  else (blocked.find? s.hasWord).map .blocked

/-- Why `sql` is no read, if it is none. -/
def read (sql : String) : Option Refusal :=
  let s := Statement.ofSql sql
  if s.isEmpty then some .empty
  else if !s.isRead then some .notRead
  else common s blockedInRead

/-- Why `sql` is no write, if it is none. -/
def write (sql : String) : Option Refusal :=
  let s := Statement.ofSql sql
  if s.isEmpty then some .empty
  else if !s.isWrite then some .notWrite
  else common s blockedInWrite

end Validation

end QueryGuard
