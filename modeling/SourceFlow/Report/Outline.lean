import SourceFlow.Flow.Basic

/-!
# Outlines

A flow graph unfolded into trees. Every node of the graph is the root of
one tree, the entry points first and then the other nodes by kind. Below
a node stand the targets of its edges, each once, down to a depth. A
target that stands on the path above already is shown once more as a
reference back, without anything below it.
-/

namespace SourceFlow

/-- A node of an outline with everything below it. -/
structure Outline where
  id : String
  kind : NodeKind
  label : String
  level : Int
  sourcePath : Option String := none
  children : List Outline := []
  isBackReference : Bool := false
deriving Inhabited

namespace Outline

/-- A node without anything below it. -/
def leaf (level : Int) (n : FlowNode) (isBackReference : Bool) : Outline :=
  { id := n.id, kind := n.kind, label := n.label, level, isBackReference
    sourcePath := if n.owner.isEmpty then none else some n.owner }

/-- The node of an id; of nodes with one id the last counts. -/
def nodeOf? (nodes : List FlowNode) (id : String) : Option FlowNode :=
  nodes.reverse.find? (·.id == id)

/-- Unfolds a node down to `depth` levels below it. `path` holds the ids from the root to the node,
the node included. -/
def unfold (nodes : List FlowNode) (adj : Graph.Adjacency) :
    Nat → Int → List String → FlowNode → Outline
  | 0, level, _, n => leaf level n false
  | depth + 1, level, path, n =>
    { leaf level n false with
      children := (adj.neighbours n.id).eraseDups.filterMap fun target =>
        (nodeOf? nodes target).map fun child =>
          -- a node of the path is shown, but not unfolded again
          if path.contains target then leaf (level + 1) child true
          else unfold nodes adj depth (level + 1) (target :: path) child }

/-- Nodes by kind, those of unknown kinds last. -/
def grouped (nodes : List FlowNode) : List FlowNode :=
  NodeKind.known.flatMap (fun kind => nodes.filter (·.kind == kind)) ++
    nodes.filter fun n => !NodeKind.known.contains n.kind

/-- The nodes that become roots, one for each id. -/
def rootNodes (g : FlowGraph) : List FlowNode :=
  -- entry points come first, then the other nodes
  Ordered.firstBy (·.id) (g.entries.filterMap (nodeOf? g.nodes) ++ grouped g.nodes)

/-- The outlines of a graph, at most `depth` levels below their roots. -/
def ofGraph (g : FlowGraph) (depth : Int) : List Outline :=
  (rootNodes g).map fun n => unfold g.nodes (adjacencyOf g.edges) depth.toNat 0 [n.id] n

end Outline

end SourceFlow
