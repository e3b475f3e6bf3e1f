/-!
What can go wrong outside the decisions themselves, and the words for it.
-/

namespace QueryGuard

inductive DatabaseError where
  /-- What came back was not understood. -/
  | unexpectedData (detail : String)
  /-- The engine's own report. -/
  | reported (text : String)
  | noDriver (scheme : String)
  | notUrl

def DatabaseError.message : DatabaseError → String
  | unexpectedData detail => "encountered unexpected or invalid data: " ++ detail
  | reported text => text
  | noDriver scheme =>
    "error with configuration: no driver found for URL scheme \"" ++ scheme ++ "\""
  | notUrl => "error with configuration: relative URL without a base"

inductive Failure where
  | database (cause : DatabaseError)
  | drafter (detail : String)
  | missingKey
  | noDrafter
  | http (detail : String)
  | json (detail : String)
  | unevenRecords (fields previous : Nat)
  | files (detail : String)
  | logging (detail : String)
  | server (detail : String)

namespace Failure

/-- The detail of a failure to write CSV. -/
def unevenDetail (fields previous : Nat) : String :=
  "CSV error: found record with " ++ toString fields ++
    " fields, but the previous record has " ++ toString previous ++ " fields"

def message : Failure → String
  | database cause => "Database error: " ++ cause.message
  | drafter detail => "Claude API error: " ++ detail
  | missingKey =>
    "Missing API key. Set one of: ANTHROPIC_API_KEY, CLAUDE_API_KEY, or CLAUDE_KEY"
  | noDrafter => "No translator configured; natural language requests need an API key"
  | http detail => "HTTP error: " ++ detail
  | json detail => "JSON error: " ++ detail
  | unevenRecords fields previous => "CSV error: " ++ unevenDetail fields previous
  | files detail => "IO error: " ++ detail
  | logging detail => "Logging error: " ++ detail
  | server detail => "Server error: " ++ detail

end Failure

end QueryGuard
