import SourceFlow.Flow.Unchecked
import SourceFlow.Report.Basic

/-!
# Reports with unchecked settings

A report under settings that were not checked. As in an analysis, a value
matters only where it is used.
-/

namespace SourceFlow

/-- The outlines of a graph down to a limit, which has to be a number if there are nodes. No path
down an outline is longer than the nodes are many. -/
def Outline.ofGraphUnder? (g : FlowGraph) (limit : Value) : Option (List Outline) :=
  if g.nodes.isEmpty then some []
  else limit.number?.map fun n => Outline.ofGraph g (n.ceiling?.getD (g.nodes.length + 1))

/-- The issues of a graph with a threshold, which has to be a number. -/
def Issue.ofGraphUnder? (g : FlowGraph) (threshold : Value) : Option (List Issue) :=
  threshold.number?.map fun n =>
    Issue.ofShape g ++
      if n.below g.stats.maxDepth then [Issue.ofDepth g.stats.maxDepth threshold.shown] else []

/-- The diagram of a graph up to a limit. Without nodes the limit does not matter. -/
def Diagram.renderUnder? (g : FlowGraph) (limit : Value) : Option String :=
  if g.nodes.isEmpty then some Diagram.emptyText
  else (nodeLimit? g.nodes.length limit).map (Diagram.render g)

namespace Report

/-- The name of a format. A value without parts that is no text is the name of none. -/
def formatName? : Value → Option String
  | .text s => some s
  | .list _ | .table _ => none
  | _ => some ""

/-- The setting that the depth of a graph is compared with. -/
def thresholdSetting (s : Settings) : Setting :=
  if (s .depthThreshold).isNull then .maxDepth else .depthThreshold

/-- The report on a project and its flow graph with unchecked settings. -/
def under (s : Settings) (time : Timestamp) (label : String) (p : Project) (g : FlowGraph) :
    Except Misfit Report := do
  let roots ← Setting.maxDepth.fit (Outline.ofGraphUnder? g (s .maxDepth))
  let issues ← (thresholdSetting s).fit (Issue.ofGraphUnder? g s.effectiveThreshold)
  -- the limit on nodes is used only if a diagram is drawn
  let diagram ←
    if (s .drawDiagram).isTruthy then
      (Setting.maxNodes.fit (Diagram.renderUnder? g (s .maxNodes))).map some
    else .ok none
  let format ← Setting.format.fit (formatName? (s .format))
  return assemble time label p g roots issues format diagram

end Report

end SourceFlow
