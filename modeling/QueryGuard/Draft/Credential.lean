import QueryGuard.Failure
import QueryGuard.Text.Blank

/-!
The key by which a drafter is reached: one that is given and not blank, or else the first of
three variables of the environment that is set, if only to nothing.
-/

namespace QueryGuard.Credential

def keyNames : List String := ["ANTHROPIC_API_KEY", "CLAUDE_API_KEY", "CLAUDE_KEY"]

def find (given : Option String) (environment : List (String × String)) : Except Failure String :=
  match given.filter fun key => Text.trim key.toList ≠ [] with
  | some key => .ok key
  | none =>
    match keyNames.findSome? fun name => environment.lookup name with
    | some key => .ok key
    | none => .error .missingKey

end QueryGuard.Credential
