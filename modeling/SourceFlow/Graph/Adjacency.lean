import SourceFlow.Ordered

/-!
# Adjacency

A directed graph as the lists of neighbours of its nodes. A node without
an entry has no neighbours, a neighbour may be listed more than once, and
a neighbour need not have an entry itself.
-/

namespace SourceFlow.Graph

/-- Neighbour lists by node. -/
abbrev Adjacency := List (String × List String)

namespace Adjacency

def neighbours (adj : Adjacency) (node : String) : List String :=
  (Ordered.get? adj node).getD []

/-- Adds a neighbour at the end of a node's list. -/
def link (adj : Adjacency) (source target : String) : Adjacency :=
  Ordered.put source (adj.neighbours source ++ [target]) adj

/-- The neighbour lists of a list of edges: nodes in the order in which they first are a source,
neighbours in the order of the edges. -/
def ofEdges (edges : List (String × String)) : Adjacency :=
  edges.foldl (fun adj e => adj.link e.1 e.2) []

theorem neighbours_link_self (adj : Adjacency) (source target : String) :
    (adj.link source target).neighbours source = adj.neighbours source ++ [target] := by
  rw [neighbours, link, Ordered.get?_put_self]
  rfl

theorem neighbours_link_ne (adj : Adjacency) {source other : String} (h : other ≠ source)
    (target : String) : (adj.link source target).neighbours other = adj.neighbours other := by
  rw [neighbours, link, Ordered.get?_put_ne h]
  rfl

end Adjacency

end SourceFlow.Graph
