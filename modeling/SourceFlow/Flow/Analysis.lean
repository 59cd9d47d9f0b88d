import SourceFlow.Flow.Basic
import SourceFlow.Graph.Cycles
import SourceFlow.Graph.Depth
import SourceFlow.Settings.Options

/-!
# Analysis of a flow graph

Where the flow enters, whether it runs in circles, and how deep it goes.
-/

namespace SourceFlow.Flow

/-- The entry points: the endpoints, or, if there are none, the nodes whose owner has a non-empty
pattern in it. -/
def entryPoints (nodes : List FlowNode) (pattern : Option String) : List String :=
  match nodes.filter (·.kind == .endpoint) with
  -- only without endpoints the pattern is used
  | [] =>
    match pattern with
    | none => []
    | some text =>
      if text.isEmpty then []
      else (nodes.filter fun n => Text.contains n.owner text).map (·.id)
  | endpoints => endpoints.map (·.id)

def analyze (options : Options) (nodes : List FlowNode) (edges : List FlowEdge) : FlowGraph :=
  let entries := entryPoints nodes options.entryPattern
  let adj := adjacencyOf edges
  { nodes, edges, entries
    cycles := if options.detectCycles then Graph.cycles (nodes.map (·.id)) adj else []
    stats :=
      { nodeCount := nodes.length, edgeCount := edges.length
        maxDepth := Graph.depth entries adj options.maxDepth } }

end SourceFlow.Flow
