import SourceFlow.Flow.Basic
import SourceFlow.Text.Basic

/-!
# Issues

What an analysis finds worth telling: circles, nodes that nothing is
joined to, and a flow deeper than wished.
-/

namespace SourceFlow

/-- How much an issue matters. Three severities are known; any other name is one of its own. -/
structure Severity where
  name : String
deriving DecidableEq, Repr

namespace Severity

/-- Something is wrong. -/
def error : Severity := ⟨"error"⟩

/-- Something may be wrong. -/
def warning : Severity := ⟨"warning"⟩

/-- Something is worth knowing. -/
def info : Severity := ⟨"info"⟩

end Severity

/-- What an issue is about, by name. -/
structure IssueType where
  name : String
deriving DecidableEq, Repr

namespace IssueType

/-- Nodes lead to each other in a circle. -/
def circular : IssueType := ⟨"circular-dependency"⟩

/-- No edge touches a node. -/
def orphan : IssueType := ⟨"orphan-node"⟩

/-- The graph is deeper than the threshold. -/
def depth : IssueType := ⟨"depth-exceeded"⟩

end IssueType

structure Issue where
  id : String
  type : IssueType
  severity : Severity
  message : String
  affected : List String := []
  suggestions : List String := []
deriving DecidableEq, Repr

/-- A cycle as a chain that ends where it begins. -/
def loopText (cycle : List String) : String :=
  " → ".intercalate (cycle ++ cycle.take 1)

namespace Issue

/-- The issue of a cycle, by its place in the list of cycles. -/
def ofCycle (index : Nat) (cycle : List String) : Issue :=
  { id := "circular-" ++ index.repr
    type := .circular
    severity := .warning
    message := "Circular dependency detected: " ++ loopText cycle
    affected := cycle
    suggestions :=
      ["Consider refactoring to break the circular dependency",
       "Extract common functionality into a separate module"] }

/-- Whether no edge touches a node and nothing enters there. -/
def isOrphan (g : FlowGraph) (n : FlowNode) : Bool :=
  -- an edge from a node to itself touches it too
  !g.edges.any (fun e => e.source == n.id || e.target == n.id) && !g.entries.contains n.id

/-- The issue of a node that nothing is joined to. -/
def ofOrphan (n : FlowNode) : Issue :=
  { id := "orphan-" ++ n.id
    type := .orphan
    severity := .info
    message := "Orphan node detected: " ++ n.label
    affected := [n.id]
    suggestions := ["Check if this code is still needed", "Add proper connections to the flow"] }

/-- The issue of too much depth, with the threshold as it is shown. -/
def ofDepth (depth : Int) (threshold : String) : Issue :=
  { id := "depth-exceeded"
    type := .depth
    severity := .warning
    message := "Maximum depth exceeded: " ++ Text.decimal depth ++ " > " ++ threshold
    suggestions := ["Consider increasing maxDepth option", "Simplify the call chain"] }

/-- The issues of a graph that do not depend on a threshold: cycles, then orphans. -/
def ofShape (g : FlowGraph) : List Issue :=
  g.cycles.zipIdx.map (fun c => ofCycle c.2 c.1) ++ (g.nodes.filter (isOrphan g)).map ofOrphan

/-- The issues of a graph: cycles, then orphans, then depth. -/
def ofGraph (g : FlowGraph) (threshold : Int) : List Issue :=
  ofShape g ++
    if g.stats.maxDepth > threshold then [ofDepth g.stats.maxDepth (Text.decimal threshold)] else []

end Issue

end SourceFlow
