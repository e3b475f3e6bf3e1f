import QueryGuard.Json.Basic
import QueryGuard.Gate.Outcome

/-!
Values read from JSON. A record is an object with its fields, others being passed over, or a
list of the values of its fields in order, none too many; fields with a default may be missing,
in a list only at its end.
-/

namespace QueryGuard

namespace Json

/-- The given fields of a record, each with its value if it is there. -/
def record? (names : List String) : Json → Option (List (String × Json))
  | obj fields => some fields
  | arr items => if items.length ≤ names.length then some (names.zip items) else none
  | _ => none

def list? {α : Type} (read : Json → Option α) (j : Json) : Option (List α) := do
  (← j.arr?).mapM read

/-- A field that must be there. -/
def need {α : Type} (fields : List (String × Json)) (name : String) (read : Json → Option α) :
    Option α :=
  (fields.lookup name).bind read

/-- A field that may be missing, but not ill-formed. -/
def maybe {α : Type} (fields : List (String × Json)) (name : String) (default : α)
    (read : Json → Option α) : Option α :=
  match fields.lookup name with
  | none => some default
  | some v => read v

/-- One of the names of an enumeration, by itself or as the only field of an object, with no
value. -/
def variant? {α : Type} (names : List (String × α)) : Json → Option α
  | str s => names.lookup s
  | obj [(s, null)] => names.lookup s
  | _ => none

end Json

open Json

def Column.ofJson? (j : Json) : Option Column := do
  let f ← record? ["name", "type"] j
  return ⟨← need f "name" str?, ← need f "type" str?⟩

def ForeignKey.ofJson? (j : Json) : Option ForeignKey := do
  let f ← record? ["table", "columns", "referred_table", "referred_columns"] j
  return ⟨← need f "table" str?, ← need f "columns" (list? str?),
    ← need f "referred_table" str?, ← maybe f "referred_columns" [] (list? str?)⟩

def Schema.tables? : Json → Option (NameMap (List Column))
  | obj fields => do
    let tables ← fields.mapM fun (name, v) => do
      let columns ← list? Column.ofJson? v
      return (name, columns)
    return .ofList tables
  | _ => none

def Schema.ofJson? (j : Json) : Option Schema := do
  let f ← record? ["dialect", "tables", "foreign_keys"] j
  return ⟨← need f "dialect" str?, ← need f "tables" Schema.tables?,
    ← maybe f "foreign_keys" [] (list? ForeignKey.ofJson?)⟩

def ResultSet.ofJson? (j : Json) : Option ResultSet := do
  let f ← record? ["columns", "rows", "row_count"] j
  return ⟨← need f "columns" (list? str?), ← need f "rows" (list? arr?),
    ← need f "row_count" nat?⟩

def Policy.ofJson? : Json → Option Policy := variant? [
  ("READ_ONLY", .readOnly), ("SINGLE_STATEMENT", .singleStatement),
  ("JOIN_COMPLEXITY", .joinComplexity), ("UNBOUNDED_READ", .unboundedRead),
  ("SAFE_LIMIT_APPLIED", .safeLimitApplied), ("RISK_THRESHOLD", .riskThreshold),
  ("ALLOW", .allow)]

def RiskLevel.ofJson? : Json → Option RiskLevel :=
  variant? [("low", .low), ("medium", .medium), ("high", .high)]

def Decision.ofJson? (j : Json) : Option Decision := do
  let f ← record? ["allowed", "policy", "reason", "suggested_fix"] j
  return ⟨← need f "allowed" bool?, ← need f "policy" Policy.ofJson?, ← need f "reason" str?,
    ← need f "suggested_fix" str?⟩

def RunMode.ofJson? : Json → Option RunMode :=
  variant? [("execute", .execute), ("preview", .preview), ("explain", .explain)]

def Dialect.ofJson? (j : Json) : Option Dialect := j.str?.map .ofTag

end QueryGuard
