import SourceFlow.Graph.Adjacency

/-!
# Depth

How far the nodes reach from the entry points, in levels: an entry point
stands on level one, a neighbour one level below. A branch ends at a node
that it has passed already, which still counts as a level, and at the
limit. A node shared by two branches is followed on both.
-/

namespace SourceFlow.Graph

/-- The largest of `best` and the values of `f`, without looking further once one reaches `cap`. -/
def bestUpTo {α : Type} (cap : Nat) (f : α → Nat) : Nat → List α → Nat
  | best, [] => best
  | best, x :: rest =>
    let best := max best (f x)
    -- no value is above the cap, so looking further would change nothing
    if cap ≤ best then best else bestUpTo cap f best rest

/-- How many levels there are below a node on a branch that has passed `passed`, up to `levels`. -/
def levelsBelow (adj : Adjacency) : Nat → List String → String → Nat
  | 0, _, _ => 0
  | levels + 1, passed, node =>
    -- a node that comes again on its own branch ends the branch
    if passed.contains node then 0
    else
      bestUpTo (levels + 1) (fun next => 1 + levelsBelow adj levels (node :: passed) next) 0
        (adj.neighbours node)

/-- The deepest level reached from entry points, going at most `levels` below them. -/
def deepest (entries : List String) (adj : Adjacency) (levels : Nat) : Nat :=
  1 + bestUpTo levels (levelsBelow adj levels []) 0 entries

/-- The deepest level reached from the entry points, at most `limit`; zero without entry points. -/
def depth (entries : List String) (adj : Adjacency) (limit : Int) : Int :=
  if entries.isEmpty then 0 else min limit (deepest entries adj (limit - 1).toNat)

end SourceFlow.Graph
