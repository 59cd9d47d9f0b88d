import SourceFlow.Flow.Basic
import SourceFlow.Project.Basic

/-!
# Report statistics

The seven numbers at the head of a report.
-/

namespace SourceFlow

structure Statistics where
  files : Int := 0
  functions : Int := 0
  endpoints : Int := 0
  nodes : Int := 0
  edges : Int := 0
  maxDepth : Int := 0
  cycles : Int := 0
deriving DecidableEq, Repr

namespace Statistics

def of (p : Project) (g : FlowGraph) : Statistics :=
  { files := p.units.length
    functions := (p.units.flatMap (·.functions)).length
    endpoints := (g.nodes.filter (·.kind == .endpoint)).length
    nodes := g.nodes.length
    edges := g.edges.length
    maxDepth := g.stats.maxDepth
    cycles := g.cycles.length }

/-- The numbers with their captions, in the order in which they are shown. -/
def rows (s : Statistics) : List (String × Int) :=
  [("Total Files", s.files), ("Total Functions", s.functions), ("Total Endpoints", s.endpoints),
   ("Total Nodes", s.nodes), ("Total Edges", s.edges), ("Max Depth", s.maxDepth),
   ("Circular Dependencies", s.cycles)]

end Statistics

end SourceFlow
