import QueryGuard.Estimate
import QueryGuard.RowBound

/-!
The database engines that are told apart: how each is asked for a plan, and how the answer is
read. Any other engine is `generic`; its plans are not read.
-/

namespace QueryGuard

open Text

inductive Dialect where
  | postgres
  | sqlite
  | mysql
  | generic
deriving DecidableEq

namespace Dialect

/-- Blanks around the tag and its letter case do not count. -/
def ofTag (tag : String) : Dialect :=
  let t := String.ofList (lower (trim tag.toList))
  if t = "postgres" ∨ t = "postgresql" then postgres
  else if t = "sqlite" then sqlite
  else if t = "mysql" ∨ t = "mariadb" then mysql
  else generic

def ofUrl (url : String) : Dialect :=
  let starts (head : String) : Bool := head.toList.isPrefixOf url.toList
  if starts "postgres://" || starts "postgresql://" then postgres
  else if starts "mysql://" || starts "mariadb://" then mysql
  else if starts "sqlite:" then sqlite
  else generic

def tag : Dialect → String
  | postgres => "postgresql"
  | sqlite => "sqlite"
  | mysql => "mysql"
  | generic => "sql"

def explainHead : Dialect → String
  | sqlite => "EXPLAIN QUERY PLAN "
  | postgres => "EXPLAIN (FORMAT JSON) "
  | mysql | generic => "EXPLAIN "

/-- The statement that asks for the plan of `sql`, without its last semicolon. -/
def explainSql (d : Dialect) (sql : String) : String :=
  d.explainHead ++ (RowBound.splitTerminator sql).1

def estimate : Dialect → ResultSet → Estimate
  | postgres, r => .ofPlanTree r
  | sqlite, r => .ofPlanLines r
  | mysql, _ | generic, _ => {}

end Dialect

end QueryGuard
