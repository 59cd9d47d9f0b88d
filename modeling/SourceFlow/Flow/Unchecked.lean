import SourceFlow.Flow.Analysis
import SourceFlow.Flow.Build
import SourceFlow.Value.Number

/-!
# Analysis of a flow graph with unchecked settings

Settings that were not checked may hold values of any kind. Such a value
matters only where the analysis uses it: a limit has to be a number once
something is compared with it, and a pattern has to be a text once it is
searched for.
-/

namespace SourceFlow

/-- A setting has a value of a kind that does not fit where it is used. -/
structure Misfit where
  setting : Setting
deriving DecidableEq, Repr

/-- What fits, or that the setting does not. -/
def Setting.fit {α : Type} (setting : Setting) : Option α → Except Misfit α
  | some a => .ok a
  | none => .error ⟨setting⟩

/-- How many of the nodes a limit keeps: all for null, and else the limit has to be an integer or a
truth value. -/
def nodeLimit? (count : Nat) : Value → Option Int
  | .null => some count
  | .bool b => some (if b then 1 else 0)
  | .int n => some n
  | _ => none

namespace Graph

/-- The deepest level reached from the entry points, or the limit itself if it is less. The limit
has to be a number if there are entry points. A branch passes each node with neighbours once, so
their number is limit enough for one that has none. -/
def depthUnder? (entries : List String) (adj : Adjacency) (limit : Value) : Option Value :=
  if entries.isEmpty then some (.int 0)
  else
    limit.number?.map fun n =>
      let levels := (n.ceiling?.map (· - 1)).getD (adj.length + 2)
      let d := deepest entries adj levels
      -- what is returned is the limit as it was given, whatever its kind
      if n.below d then limit else .int d

end Graph

namespace Flow

/-- The entry points. The pattern has to be a text, unless it counts as no or is not needed. -/
def entryPointsUnder? (nodes : List FlowNode) (pattern : Value) : Option (List String) :=
  match pattern with
  | .text s => some (entryPoints nodes (some s))
  | v =>
    match entryPoints nodes none, nodes with
    -- the pattern is looked at only if there are nodes and no endpoints
    | [], _ :: _ => if v.isTruthy then none else some []
    | entries, _ => some entries

def capUnder? (limit : Value) (nodes : List FlowNode) (edges : List FlowEdge) :
    Option (List FlowNode × List FlowEdge) :=
  (nodeLimit? nodes.length limit).map fun n => cap n nodes edges

/-- The nodes and edges of a project up to a limit. -/
def buildUnder? (limit : Value) (p : Project) : Option (List FlowNode × List FlowEdge) :=
  capUnder? limit (nodes p) (edges p)

/-- What an analysis with unchecked settings finds. The depth may be a limit of any kind. -/
structure Findings where
  entries : List String
  cycles : List (List String)
  nodeCount : Nat
  edgeCount : Nat
  depth : Value

def analyzeUnder (s : Settings) (nodes : List FlowNode) (edges : List FlowEdge) :
    Except Misfit Findings := do
  let adj := adjacencyOf edges
  let entries ← Setting.entryPattern.fit (entryPointsUnder? nodes (s .entryPattern))
  let cycles :=
    if (s .detectCycles).isTruthy then Graph.cycles (nodes.map (·.id)) adj else []
  let depth ← Setting.maxDepth.fit (Graph.depthUnder? entries adj (s .maxDepth))
  return { entries, cycles, nodeCount := nodes.length, edgeCount := edges.length, depth }

end Flow

end SourceFlow
