import QueryGuard.Json.Printer

/-!
The text of a single value: strings stand for themselves, all else is compact JSON.
-/

namespace QueryGuard.Render

def value : Json → String
  | .str s => s
  | v => v.render

end QueryGuard.Render
