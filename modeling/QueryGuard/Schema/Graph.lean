import QueryGuard.Schema.Basic

/-!
The graph whose nodes are tables and whose edges are foreign keys, and the shortest ways through
it. Edges have no direction. Neighbours are kept in increasing order and the search goes level by
level, so of the shortest ways the first in the order of names is found.
-/

namespace QueryGuard

/-- The way a query may join from one table to another. -/
structure JoinPath where
  start : String
  goal : String
  path : List String
deriving DecidableEq

/-- Adds a name to names in increasing order. -/
def addName (name : String) : List String → List String
  | [] => [name]
  | n :: rest =>
    if name < n then name :: n :: rest
    else if name = n then n :: rest
    else n :: addName name rest

structure SchemaGraph where
  adjacency : NameMap (List String)

namespace SchemaGraph

def addNeighbor (m : NameMap (List String)) (a b : String) : NameMap (List String) :=
  m.alter a fun known => addName b (known.getD [])

/-- Edges with an empty name are left out. -/
def ofEdges (edges : List (String × String)) : SchemaGraph :=
  ⟨edges.foldl (fun m (a, b) =>
    if a = "" ∨ b = "" then m else addNeighbor (addNeighbor m a b) b a) .empty⟩

def ofSchema (s : Schema) : SchemaGraph :=
  ofEdges (s.foreignKeys.map fun k => (k.table, k.referredTable))

def neighbors (g : SchemaGraph) (table : String) : List String := (g.adjacency.get? table).getD []

/-- A way, its end first, extended by every neighbour of its end that was not met before, and all
that has been met now. -/
def extend (trail : List String) : List String → List String → List (List String) × List String
  | [], met => ([], met)
  | n :: ns, met =>
    if n ∈ met then extend trail ns met
    else
      let (ways, met) := extend trail ns (n :: met)
      ((n :: trail) :: ways, met)

/-- The ways one step longer than those of a level, in order. -/
def nextLevel (g : SchemaGraph) :
    List (List String) → List String → List (List String) × List String
  | [], met => ([], met)
  | trail :: rest, met =>
    let (ways, met) := extend trail (g.neighbors (trail.head?.getD "")) met
    let (more, met) := nextLevel g rest met
    (ways ++ more, met)

/-- Looks for `goal` through at most `levels` further levels. -/
def search (g : SchemaGraph) (goal : String) :
    Nat → List (List String) → List String → List String
  | 0, _, _ => []
  | levels + 1, level, met =>
    let (next, met) := g.nextLevel level met
    match next.find? fun trail => trail.head? == some goal with
    | some trail => trail.reverse
    | none => if next.isEmpty then [] else search g goal levels next met

/-- A shortest way from `start` to `goal`; no way gives the empty list. A way that repeats no
table is no longer than the number of tables. -/
def joinPath (g : SchemaGraph) (start goal : String) : List String :=
  if start = goal then [start]
  else g.search goal (g.adjacency.entries.length + 1) [[start]] [start]

/-- The ways between each table and those after it, where there are any. -/
def joinPaths (g : SchemaGraph) : List String → List JoinPath
  | [] => []
  | t :: rest =>
    (rest.filterMap fun u =>
      let path := g.joinPath t u
      if path.isEmpty then none else some ⟨t, u, path⟩) ++ joinPaths g rest

end SchemaGraph

end QueryGuard
