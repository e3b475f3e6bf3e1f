import QueryGuard.Dialect
import QueryGuard.Failure
import QueryGuard.Schema.Basic

/-!
A database as the gate sees it, and work that may ask it. What was sent is part of the result,
in order, also of work that failed.
-/

namespace QueryGuard

/-- The answers of a database. -/
structure Database where
  dialect : Dialect
  explain : String → Except Failure ResultSet
  query : String → Except Failure ResultSet
  write : String → Except Failure Nat
  schema : Except Failure Schema

/-- A request to the database, or to the drafter. -/
inductive Call where
  | explain (sql : String)
  | query (sql : String)
  | write (sql : String)
  | schema
  | draft (request : String)
deriving DecidableEq

/-- The outcome of some work and the calls made on the way. -/
structure Traced (α : Type) where
  calls : List Call
  outcome : Except Failure α

namespace Traced

def ok {α : Type} (a : α) : Traced α := ⟨[], .ok a⟩

def fail {α : Type} (f : Failure) : Traced α := ⟨[], .error f⟩

/-- What follows a failure is not done. -/
def andThen {α β : Type} (x : Traced α) (f : α → Traced β) : Traced β :=
  match x.outcome with
  | .error e => ⟨x.calls, .error e⟩
  | .ok a => ⟨x.calls ++ (f a).calls, (f a).outcome⟩

instance : Monad Traced where
  pure := ok
  bind := andThen

/-- Work that goes on with the failure in hand. -/
def attempt {α : Type} (x : Traced α) : Traced (Except Failure α) := ⟨x.calls, .ok x.outcome⟩

theorem bind_of_ok {α β : Type} {x : Traced α} {a : α} (h : x.outcome = .ok a)
    (f : α → Traced β) : x >>= f = ⟨x.calls ++ (f a).calls, (f a).outcome⟩ := by
  show x.andThen f = _
  simp [andThen, h]

theorem bind_of_error {α β : Type} {x : Traced α} {e : Failure} (h : x.outcome = .error e)
    (f : α → Traced β) : x >>= f = ⟨x.calls, .error e⟩ := by
  show x.andThen f = _
  simp [andThen, h]

end Traced

namespace Database

variable (db : Database)

def askExplain (sql : String) : Traced ResultSet := ⟨[.explain sql], db.explain sql⟩

def askQuery (sql : String) : Traced ResultSet := ⟨[.query sql], db.query sql⟩

def askWrite (sql : String) : Traced Nat := ⟨[.write sql], db.write sql⟩

def askSchema : Traced Schema := ⟨[.schema], db.schema⟩

end Database

end QueryGuard
